import HeliumSync.Absorption
import HeliumSync.Additions

/-! The order of siblings: which side's order of the common children the merge keeps. -/
namespace HeliumSync
open BookmarkNode (nodeId Distinct)
open ThreeWay (reconcile)

/-- The ids that all three folders have, in the order of the given list. -/
def commonOrder (base loc remote nodes : List BookmarkNode) : List String :=
  (nodes.map nodeId).filter fun id =>
    id ∈ base.map nodeId ∧ id ∈ loc.map nodeId ∧ id ∈ remote.map nodeId

/-- Of these ids, those that survive in the merged folder. -/
def survivingOrder (base loc remote merged nodes : List BookmarkNode) : List String :=
  (commonOrder base loc remote nodes).filter (· ∈ merged.map nodeId)

/-- Where one side keeps the base's order of the common children, the merged folder lists those
that survive in the order of the other side. -/
def OrderMerged (base loc remote merged : List BookmarkNode) : Prop :=
  (commonOrder base loc remote loc = commonOrder base loc remote base →
    commonOrder base loc remote merged = survivingOrder base loc remote merged remote) ∧
  (commonOrder base loc remote remote = commonOrder base loc remote base →
    commonOrder base loc remote merged = survivingOrder base loc remote merged loc)

/-- Only the local side moved the common children about. -/
def OnlyLocalReordered (base loc remote : List BookmarkNode) : Prop :=
  commonOrder base loc remote remote = commonOrder base loc remote base ∧
  commonOrder base loc remote loc ≠ commonOrder base loc remote base

theorem mem_commonOrder {base loc remote nodes : List BookmarkNode} {id : String}
    (member : id ∈ commonOrder base loc remote nodes) :
    id ∈ base.map nodeId ∧ id ∈ loc.map nodeId ∧ id ∈ remote.map nodeId := by
  have common := (List.mem_filter.mp member).2
  simpa using common

/-- A node that neither side dropped is not dropped. -/
theorem mergedNode_isSome (base : Option BookmarkNode) (l r : BookmarkNode) :
    (mergedNode base (some l) (some r)).isSome := by
  rw [mergedNode_eq]
  rcases ThreeWay.reconcile_cases (some base) (some l) (some r) (clashNode base (some l) (some r))
    with ⟨_, value⟩ | ⟨_, _, value⟩ | ⟨_, _, value⟩ | ⟨_, value⟩
  · rw [value]; rfl
  · rw [value]; rfl
  · rw [value]; rfl
  · rw [value]; rfl

/-- Every child that both sides still have survives. -/
theorem mem_merged_of_common {base loc remote merged : List BookmarkNode}
    (each : ∀ id, nodeMap merged id =
      mergedNode (nodeMap base id) (nodeMap loc id) (nodeMap remote id)) {id : String}
    (here : id ∈ loc.map nodeId) (there : id ∈ remote.map nodeId) : id ∈ merged.map nodeId := by
  obtain ⟨l, left⟩ := Option.isSome_iff_exists.mp (isSome_nodeMap.mpr here)
  obtain ⟨r, right⟩ := Option.isSome_iff_exists.mp (isSome_nodeMap.mpr there)
  rw [← isSome_nodeMap, each, left, right]
  exact mergedNode_isSome _ l r

theorem survivingOrder_eq {base loc remote merged : List BookmarkNode}
    (each : ∀ id, nodeMap merged id =
      mergedNode (nodeMap base id) (nodeMap loc id) (nodeMap remote id))
    (nodes : List BookmarkNode) :
    survivingOrder base loc remote merged nodes = commonOrder base loc remote nodes := by
  apply List.filter_eq_self.mpr
  intro id member
  obtain ⟨_, here, there⟩ := mem_commonOrder member
  exact decide_eq_true (mem_merged_of_common each here there)

/-- A folder rebuilt from its children lists the common ones in the remote order. -/
theorem commonOrder_mergedChildren (past : Option (List BookmarkNode)) (base : List BookmarkNode)
    {loc remote : List BookmarkNode} (distinct : (remote.map nodeId).Nodup) :
    commonOrder base loc remote (mergedChildren past loc remote) =
      commonOrder base loc remote remote := by
  obtain ⟨rest, order, gone⟩ := childIds_of_nodup past loc distinct
  have later : (rest.filter fun id => (mergedNode (nodeMap (past.getD []) id) (nodeMap loc id)
      (nodeMap remote id)).isSome).filter (fun id =>
        id ∈ base.map nodeId ∧ id ∈ loc.map nodeId ∧ id ∈ remote.map nodeId) = [] := by
    apply List.filter_eq_nil_iff.mpr
    intro id member common
    exact gone id (List.mem_filter.mp member).1 (of_decide_eq_true common).2.2
  rw [commonOrder, mergedChildren_ids, order, List.filter_append, List.filter_append, later,
    List.append_nil, List.filter_filter, commonOrder]
  apply List.filter_congr
  intro id _
  -- a common child is on both sides, so the rebuilt folder keeps it
  by_cases common : id ∈ base.map nodeId ∧ id ∈ loc.map nodeId ∧ id ∈ remote.map nodeId
  · obtain ⟨l, left⟩ := Option.isSome_iff_exists.mp (isSome_nodeMap.mpr common.2.1)
    obtain ⟨r, right⟩ := Option.isSome_iff_exists.mp (isSome_nodeMap.mpr common.2.2)
    rw [left, right, mergedNode_isSome, Bool.and_true]
  · rw [decide_eq_false common, Bool.false_and]

/-- A merged folder has the remote order of the common children, unless the remote folder is
the base's and the local one was taken whole. -/
theorem commonOrder_merged {i nb nl nr : String} {ab al ar mb ml mr : Option String}
    {bs ls rs : List BookmarkNode} (distinct : (rs.map nodeId).Nodup) :
    commonOrder bs ls rs (children (mergedNode (some (.folder i nb ab mb bs))
        (some (.folder i nl al ml ls)) (some (.folder i nr ar mr rs)))) =
      if BookmarkNode.folder i nr ar mr rs = .folder i nb ab mb bs then commonOrder bs ls rs ls
      else commonOrder bs ls rs rs := by
  split_ifs with same
  · rw [same, mergedNode_base_right]
    rfl
  · rw [mergedNode_eq]
    rcases ThreeWay.reconcile_cases (some (some (.folder i nb ab mb bs)))
        (some (.folder i nl al ml ls)) (some (.folder i nr ar mr rs))
        (clashNode (some (.folder i nb ab mb bs)) (some (.folder i nl al ml ls))
          (some (.folder i nr ar mr rs))) with
      ⟨agreed, value⟩ | ⟨_, _, value⟩ | ⟨_, right, _⟩ | ⟨_, value⟩
    · rw [value, agreed]
      rfl
    · rw [value]
      rfl
    · exact absurd (Option.some.inj (Option.some.inj right)) same
    · rw [value, clashNode, mergedPresent_folder]
      exact commonOrder_mergedChildren _ bs distinct

/-- Sibling order is merged three-way exactly when a reorder made by the local side alone meets
a remote folder that is as it was in the base. -/
theorem order_merged_iff {base loc remote : BookmarkSnapshotV1} {merged : BookmarkMergeResult}
    (accepted : mergeBookmarks (some base) loc remote = .ok merged)
    (remoteDistinct : ∀ root ∈ remote.roots, root.node.Distinct) (key : String)
    (ids : List String)
    (common : CommonFolder (rootMap base.roots key) (rootMap loc.roots key)
      (rootMap remote.roots key) ids) :
    OrderMerged (children (baseAt (rootMap base.roots key) (rootMap loc.roots key) ids))
        (children (nodeAt (rootMap loc.roots key) ids))
        (children (nodeAt (rootMap remote.roots key) ids))
        (children (nodeAt (rootMap merged.snapshot.roots key) ids)) ↔
      (OnlyLocalReordered
          (children (baseAt (rootMap base.roots key) (rootMap loc.roots key) ids))
          (children (nodeAt (rootMap loc.roots key) ids))
          (children (nodeAt (rootMap remote.roots key) ids)) →
        nodeAt (rootMap remote.roots key) ids =
          baseAt (rootMap base.roots key) (rootMap loc.roots key) ids) := by
  obtain ⟨_, _, rfl⟩ := mergeBookmarks_ok.mp accepted
  have each := nodeMap_children_mergedNode common
  have distinct := children_nodup (nodeAt_distinct (rootMap_distinct remoteDistinct key) ids)
  obtain ⟨shared, i, ⟨nb, ab, mb, bs, atBase⟩, ⟨nl, al, ml, ls, atLoc⟩, ⟨nr, ar, mr, rs, atRemote⟩⟩ :=
    common
  simp only [rootMap_mergedRoots, baseRoots, Option.map_some, Option.getD_some]
  rw [nodeAt_mergedNode _ shared] at each ⊢
  rw [atBase, atLoc, atRemote] at each ⊢
  rw [atRemote] at distinct
  have order := @commonOrder_merged i nb nl nr ab al ar mb ml mr bs ls rs distinct
  rw [OrderMerged, survivingOrder_eq each, survivingOrder_eq each, OnlyLocalReordered]
  simp only [children] at order ⊢
  rw [order, Option.some.injEq]
  split_ifs with same
  · obtain ⟨_, _, _, _, rfl⟩ := BookmarkNode.folder.inj same
    constructor
    · intro _ _
      exact same
    · intro _
      exact ⟨fun kept => kept, fun _ => rfl⟩
  · constructor
    · rintro ⟨_, holds⟩ ⟨kept, moved⟩
      exact absurd ((holds kept).symm.trans kept) moved
    · intro only
      refine ⟨fun _ => rfl, fun kept => ?_⟩
      by_contra differ
      exact same (only ⟨kept, fun back => differ (kept.trans back.symm)⟩)

/-- Both devices touch one folder: the reorder of the local one is dropped without a conflict
because the remote one added a bookmark there. -/
theorem local_reorder_lost :
    ∃ merged, mergeBookmarks (some (barSnapshot [bookmark "2" "a", bookmark "3" "b"]))
        (barSnapshot [bookmark "3" "b", bookmark "2" "a"])
        (barSnapshot [bookmark "2" "a", bookmark "3" "b", bookmark "4" "c"]) = .ok merged ∧
      merged.conflicts = 0 ∧
      ¬ OrderMerged [bookmark "2" "a", bookmark "3" "b"] [bookmark "3" "b", bookmark "2" "a"]
        [bookmark "2" "a", bookmark "3" "b", bookmark "4" "c"]
        (children (nodeAt (rootMap merged.snapshot.roots "bookmark_bar") [])) := by
  refine ⟨⟨barSnapshot [bookmark "2" "a", bookmark "3" "b", bookmark "4" "c"], 0⟩,
    by decide +kernel, rfl, ?_⟩
  intro holds
  have order := holds.2 (by decide)
  exact absurd order (by decide)

theorem order_merged_iff_remote_reorder :
    OrderMerged [bookmark "2" "a", bookmark "3" "b"]
      [bookmark "2" "a", bookmark "3" "b", bookmark "4" "c"]
      [bookmark "3" "b", bookmark "2" "a"]
      [bookmark "3" "b", bookmark "2" "a", bookmark "4" "c"] := by
  have law := @order_merged_iff (barSnapshot [bookmark "2" "a", bookmark "3" "b"])
    (barSnapshot [bookmark "2" "a", bookmark "3" "b", bookmark "4" "c"])
    (barSnapshot [bookmark "3" "b", bookmark "2" "a"])
    ⟨barSnapshot [bookmark "3" "b", bookmark "2" "a", bookmark "4" "c"], 0⟩
    (by decide +kernel) (by simp [barSnapshot, Distinct, BookmarkNode.DistinctList, bookmark])
    "bookmark_bar" []
    ⟨trivial, "1", ⟨_, _, _, _, rfl⟩, ⟨_, _, _, _, rfl⟩, ⟨_, _, _, _, rfl⟩⟩
  apply law.mpr
  rintro ⟨kept, _⟩
  exact absurd kept (by decide)

end HeliumSync
