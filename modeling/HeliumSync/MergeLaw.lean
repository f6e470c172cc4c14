import HeliumSync.MergeStep

/-! The three-way law of `merge_bookmarks`, for every path of a snapshot. -/
namespace HeliumSync
open BookmarkNode (nodeId)
open ThreeWay (reconcile)

/-- The node below `node` that a list of child ids leads to. -/
def nodeAt : Option BookmarkNode → List String → Option BookmarkNode
  | node, [] => node
  | some (.folder _ _ _ _ children), id :: ids => nodeAt (nodeMap children id) ids
  | _, _ :: _ => none

/-- Every proper prefix of the path is a folder of one id on both sides. -/
def SharedPath : Option BookmarkNode → Option BookmarkNode → List String → Prop
  | _, _, [] => True
  | some (.folder i _ _ _ cs), some (.folder i' _ _ _ cs'), id :: ids =>
      i = i' ∧ SharedPath (nodeMap cs id) (nodeMap cs' id) ids
  | _, _, _ :: _ => False

/-- The base node at a path. It is absent when a proper prefix of the path is missing in
the base, is no folder there, or has another id than on the local side. -/
def baseAt : Option BookmarkNode → Option BookmarkNode → List String → Option BookmarkNode
  | base, _, [] => base
  | some (.folder i _ _ _ cs), some (.folder i' _ _ _ cs'), id :: ids =>
      if i = i' then baseAt (nodeMap cs id) (nodeMap cs' id) ids else none
  | _, _, _ :: _ => none

/-- Every scalar field of a merged node follows the three-way rule, the remote value winning
when all three differ. A base that is not that kind of node under that id has no such field. -/
def ScalarLaw (base : Option BookmarkNode) : BookmarkNode → BookmarkNode → BookmarkNode → Prop
  | .folder i n a m _, .folder _ n' a' m' _, .folder _ n'' a'' m'' _ =>
      n'' = reconcile ((baseFolder base i).map (·.1)) n n' n' ∧
      a'' = reconcile ((baseFolder base i).map (·.2.1)) a a' a' ∧
      m'' = reconcile ((baseFolder base i).map (·.2.2.1)) m m' m'
  | .url i n u a, .url _ n' u' a', .url _ n'' u'' a'' =>
      n'' = reconcile ((baseUrl base i).map (·.1)) n n' n' ∧
      u'' = reconcile ((baseUrl base i).map (·.2.1)) u u' u' ∧
      a'' = reconcile ((baseUrl base i).map (·.2.2)) a a' a'
  | _, _, _ => False

/-- What the merge holds at a path, given what the three snapshots hold there. -/
structure ThreeWayLaw (base loc remote merged : Option BookmarkNode) : Prop where
  agreed : loc = remote → merged = loc
  localKept : loc ≠ remote → loc = base → merged = remote
  remoteKept : loc ≠ remote → loc ≠ base → remote = base → merged = loc
  oneSide : loc ≠ remote → loc ≠ base → remote ≠ base →
    (loc = none → merged = remote) ∧ (remote = none → merged = loc)
  otherKind : loc ≠ remote → loc ≠ base → remote ≠ base → ∀ l r, loc = some l →
    remote = some r → ¬ SameKind l r → merged = some r
  fields : loc ≠ remote → loc ≠ base → remote ≠ base → ∀ l r, loc = some l →
    remote = some r → SameKind l r → ∃ m, merged = some m ∧ SameKind l m ∧ ScalarLaw base l r m

theorem ThreeWayLaw.of_agreed (base node : Option BookmarkNode) :
    ThreeWayLaw base node node node :=
  ⟨fun _ => rfl, fun h => absurd rfl h, fun h => absurd rfl h, fun h => absurd rfl h,
    fun h => absurd rfl h, fun h => absurd rfl h⟩

theorem ThreeWayLaw.of_localKept (loc remote : Option BookmarkNode) :
    ThreeWayLaw loc loc remote remote :=
  ⟨Eq.symm, fun _ _ => rfl, fun _ h => absurd rfl h, fun _ h => absurd rfl h,
    fun _ h => absurd rfl h, fun _ h => absurd rfl h⟩

theorem ThreeWayLaw.of_remoteKept (loc remote : Option BookmarkNode) :
    ThreeWayLaw remote loc remote loc :=
  ⟨fun _ => rfl, fun h same => absurd same h, fun _ _ _ => rfl, fun _ _ h => absurd rfl h,
    fun _ _ h => absurd rfl h, fun _ _ h => absurd rfl h⟩

theorem scalarLaw_mergedPresent (base : Option BookmarkNode) {loc remote : BookmarkNode}
    (same : SameKind loc remote) : ScalarLaw base loc remote (mergedPresent base loc remote) := by
  match loc, remote with
  | .folder .., .folder .. => cases same; rw [mergedPresent_folder]; exact ⟨rfl, rfl, rfl⟩
  | .url .., .url .. => cases same; rw [mergedPresent_url]; exact ⟨rfl, rfl, rfl⟩

/-- The law for one step of the merge. -/
theorem mergedNode_law (base loc remote : Option BookmarkNode) :
    ThreeWayLaw base loc remote (mergedNode base loc remote) := by
  rw [mergedNode_eq]
  rcases ThreeWay.reconcile_cases (some base) loc remote (clashNode base loc remote) with
    ⟨same, value⟩ | ⟨_, left, value⟩ | ⟨_, right, value⟩ | ⟨clash, value⟩ <;> rw [value]
  · subst same
    exact .of_agreed base loc
  · cases left
    exact .of_localKept _ _
  · cases right
    exact .of_remoteKept _ _
  · refine ⟨fun h => absurd h clash.1, fun _ h => absurd (congrArg some h) clash.2.1,
      fun _ _ h => absurd (congrArg some h) clash.2.2, fun _ _ _ => ⟨?_, ?_⟩, ?_, ?_⟩
    · rintro rfl; rfl
    · rintro rfl; cases loc <;> rfl
    · rintro _ _ _ l r rfl rfl differ
      exact congrArg some (mergedPresent_of_differ differ)
    · rintro _ _ _ l r rfl rfl same
      exact ⟨_, rfl, mergedPresent_sameKind same, scalarLaw_mergedPresent base same⟩

@[simp] theorem baseAt_none (loc : Option BookmarkNode) (ids : List String) :
    baseAt none loc ids = none := by cases ids <;> rfl

theorem baseAt_self (node : Option BookmarkNode) (ids : List String) :
    baseAt node node ids = nodeAt node ids := by
  induction ids generalizing node with
  | nil => rfl
  | cons id ids ih =>
      match node with
      | none => rfl
      | some (.url ..) => rfl
      | some (.folder i n a m cs) => exact (if_pos rfl).trans (ih (nodeMap cs id))

theorem baseAt_remote {loc remote : Option BookmarkNode} {ids : List String}
    (shared : SharedPath loc remote ids) : baseAt remote loc ids = nodeAt remote ids := by
  induction ids generalizing loc remote with
  | nil => rfl
  | cons id ids ih =>
      match loc, remote with
      | some (.folder ..), some (.folder ..) => exact (if_pos shared.1.symm).trans (ih shared.2)

/-- The base children handed to `merge_children` lead to the base node of the longer path. -/
theorem baseAt_cons (base : Option BookmarkNode) (i n : String) (a m : Option String)
    (cs : List BookmarkNode) (id : String) (ids : List String) :
    baseAt base (some (.folder i n a m cs)) (id :: ids) =
      baseAt (nodeMap (((baseFolder base i).map (·.2.2.2)).getD []) id) (nodeMap cs id) ids := by
  match base with
  | none => simp [baseAt, baseFolder]
  | some (.url ..) => simp [baseAt, baseFolder]
  | some (.folder i' ..) => by_cases same : i' = i <;> simp [baseAt, baseFolder, same]

/-- Descending commutes with merging: a shortcut taken at an ancestor gives at every path
below it what merging there would give. -/
theorem nodeAt_mergedNode {loc remote : Option BookmarkNode} (base : Option BookmarkNode)
    {ids : List String} (shared : SharedPath loc remote ids) :
    nodeAt (mergedNode base loc remote) ids =
      mergedNode (baseAt base loc ids) (nodeAt loc ids) (nodeAt remote ids) := by
  induction ids generalizing base loc remote with
  | nil => rfl
  | cons id ids ih =>
      rcases ThreeWay.reconcile_cases (some base) loc remote (clashNode base loc remote) with
        ⟨same, _⟩ | ⟨_, left, _⟩ | ⟨_, right, _⟩ | ⟨_, value⟩
      · rw [same, mergedNode_self, mergedNode_self]
      · cases left
        rw [mergedNode_base_left, baseAt_self, mergedNode_base_left]
      · cases right
        rw [mergedNode_base_right, baseAt_remote shared, mergedNode_base_right]
      · match loc, remote with
        | some (.folder i n a m cs), some (.folder i' n' a' m' cs') =>
            obtain ⟨rfl, below⟩ := shared
            rw [mergedNode_eq, value, clashNode, mergedPresent_folder, baseAt_cons]
            simp only [nodeAt, nodeMap_mergedChildren]
            exact ih _ below

/-- The merge holds what the law says at every path, and at no path twice. -/
theorem merge_three_way_law {base : Option BookmarkSnapshotV1} {loc remote : BookmarkSnapshotV1}
    {merged : BookmarkMergeResult} (accepted : mergeBookmarks base loc remote = .ok merged) :
    (∀ (key : String) (ids : List String),
      SharedPath (rootMap loc.roots key) (rootMap remote.roots key) ids →
      ThreeWayLaw (baseAt (rootMap (baseRoots base) key) (rootMap loc.roots key) ids)
        (nodeAt (rootMap loc.roots key) ids) (nodeAt (rootMap remote.roots key) ids)
        (nodeAt (rootMap merged.snapshot.roots key) ids)) ∧
    (merged.snapshot.roots.map BookmarkRoot.key).Nodup ∧
    ((∀ root ∈ loc.roots, root.node.Distinct) → (∀ root ∈ remote.roots, root.node.Distinct) →
      ∀ root ∈ merged.snapshot.roots, root.node.Distinct) := by
  obtain ⟨_, _, rfl⟩ := mergeBookmarks_ok.mp accepted
  refine ⟨fun key ids shared => ?_, mergedRoots_nodup _ _ _, mergedRoots_distinct⟩
  simp only [rootMap_mergedRoots, nodeAt_mergedNode _ shared]
  exact mergedNode_law _ _ _

/-- One snapshot with a single bookmark-bar folder, as the repository's tests build it. -/
def barSnapshot (children : List BookmarkNode) : BookmarkSnapshotV1 :=
  ⟨"helium-bookmarks-v1", "helium", "Default", 1,
    [⟨"bookmark_bar", .folder "1" "Bookmarks bar" none none children⟩]⟩

def bookmark (id name : String) : BookmarkNode :=
  .url id name ("https://example.test/" ++ id) none

theorem merge_three_way_law_modify_delete :
    ∃ merged, mergeBookmarks (some (barSnapshot [bookmark "2" "before"]))
        (barSnapshot [bookmark "2" "after"]) (barSnapshot []) = .ok merged ∧
      ThreeWayLaw (some (bookmark "2" "before")) (some (bookmark "2" "after")) none
        (nodeAt (rootMap merged.snapshot.roots "bookmark_bar") ["2"]) ∧
      ∀ root ∈ merged.snapshot.roots, root.node.Distinct := by
  obtain ⟨law, _, distinct⟩ := @merge_three_way_law (some (barSnapshot [bookmark "2" "before"]))
    (barSnapshot [bookmark "2" "after"]) (barSnapshot [])
    ⟨barSnapshot [bookmark "2" "after"], 1⟩ (by decide +kernel)
  refine ⟨_, by decide +kernel, law "bookmark_bar" ["2"] ⟨rfl, trivial⟩, distinct ?_ ?_⟩ <;>
    simp [barSnapshot, bookmark, BookmarkNode.Distinct, BookmarkNode.DistinctList]

end HeliumSync
