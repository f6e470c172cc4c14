import HeliumSync.MergeStep

/-! Merging again with the outcome on the remote side changes nothing. -/
namespace HeliumSync
open BookmarkNode (nodeId weight weightList weightOption Distinct DistinctList)
open ThreeWay (reconcile)

theorem childIds_of_nodup (base : Option (List BookmarkNode)) (loc : List BookmarkNode)
    {remote : List BookmarkNode} (distinct : (remote.map nodeId).Nodup) :
    ∃ rest, childIds base loc remote = remote.map nodeId ++ rest ∧
      ∀ id ∈ rest, id ∉ remote.map nodeId := by
  refine ⟨Keyed.unseen (remote.map nodeId) ((loc ++ base.getD []).map nodeId), ?_, fun id member =>
    (Keyed.mem_unseen.mp member).2⟩
  rw [childIds, List.append_assoc, List.map_append,
    Keyed.unseen_append_of_nodup distinct fun _ _ => List.not_mem_nil, List.append_nil]

/-- The remote order stands when exactly the remote ids survive. -/
theorem mergedChildren_ids_of_remote {base : Option (List BookmarkNode)}
    {loc remote : List BookmarkNode} (distinct : (remote.map nodeId).Nodup)
    (survive : ∀ id, (mergedNode (nodeMap (base.getD []) id) (nodeMap loc id)
      (nodeMap remote id)).isSome ↔ id ∈ remote.map nodeId) :
    (mergedChildren base loc remote).map nodeId = remote.map nodeId := by
  obtain ⟨rest, order, gone⟩ := childIds_of_nodup base loc distinct
  rw [mergedChildren_ids, order, List.filter_append, List.filter_eq_self.mpr, List.filter_eq_nil_iff.mpr,
    List.append_nil]
  · exact fun id member => fun h => gone id member ((survive id).mp h)
  · exact fun id member => (survive id).mpr member

theorem isSome_nodeMap {nodes : List BookmarkNode} {id : String} :
    (nodeMap nodes id).isSome ↔ id ∈ nodes.map nodeId := by
  rw [Option.isSome_iff_ne_none, ne_eq, nodeMap_eq_none_iff, not_not]

mutual
/-- A merge that gives the base back had the base on the remote side. -/
theorem base_of_mergedNode {base loc remote : Option BookmarkNode}
    (distinct : ∀ x, remote = some x → x.Distinct) (h : mergedNode base loc remote = base) :
    remote = base := by
  rw [mergedNode_eq] at h
  rcases ThreeWay.reconcile_cases (some base) loc remote (clashNode base loc remote) with
    ⟨same, value⟩ | ⟨_, _, value⟩ | ⟨_, right, _⟩ | ⟨clash, value⟩
  · rw [← same, ← value, h]
  · rw [← value, h]
  · exact Option.some.inj right
  · rw [value] at h
    match here : loc, there : remote with
    | none, _ => exact h
    | some l, none => exact absurd (congrArg some h) clash.2.1
    | some l, some r =>
        by_cases same : SameKind l r
        · match base with
          | some b =>
              exact congrArg some
                (base_of_mergedPresent (distinct r rfl) same (Option.some.inj h))
        · rwa [clashNode, mergedPresent_of_differ same] at h
termination_by 2 * (weightOption loc + weightOption remote) + 1
decreasing_by simp only [here, there, weightOption]; omega

theorem base_of_mergedPresent {base loc remote : BookmarkNode} (distinct : remote.Distinct)
    (same : SameKind loc remote) (h : mergedPresent (some base) loc remote = base) :
    remote = base := by
  have kept {T : Type} [DecidableEq T] {base loc remote : T}
      (h : reconcile (some base) loc remote remote = base) : remote = base :=
    Option.some.inj (ThreeWay.base_of_reconcile (congrArg some h)).2
  match loc, remote, base with
  | .folder i n a m cs, .folder i' n' a' m' cs', .folder ib nb ab mb bs =>
      cases same
      rw [mergedPresent_folder] at h
      simp only [BookmarkNode.folder.injEq] at h
      obtain ⟨rfl, name, added, modified, children⟩ := h
      simp only [baseFolder, if_true, Option.map_some] at name added modified children
      rw [kept name, kept added, kept modified,
        base_of_mergedChildren distinct.1 distinct.2 children]
  | .url i n u a, .url i' n' u' a', .url ib nb ub ab =>
      cases same
      rw [mergedPresent_url] at h
      simp only [BookmarkNode.url.injEq] at h
      obtain ⟨rfl, name, url, added⟩ := h
      simp only [baseUrl, if_true, Option.map_some] at name url added
      rw [kept name, kept url, kept added]
  | .folder .., .folder .., .url .. =>
      cases same
      rw [mergedPresent_folder] at h
      cases h
  | .url .., .url .., .folder .. =>
      cases same
      rw [mergedPresent_url] at h
      cases h
termination_by 2 * (loc.weight + remote.weight)
decreasing_by simp only [weight]; omega

theorem base_of_mergedChildren {base loc remote : List BookmarkNode}
    (distinct : (remote.map nodeId).Nodup) (below : DistinctList remote)
    (h : mergedChildren (some base) loc remote = base) : remote = base := by
  have each : ∀ id, nodeMap remote id = nodeMap base id := by
    intro id
    have held := nodeMap_mergedChildren (some base) loc remote id
    rw [h] at held
    exact base_of_mergedNode (fun _ => nodeMap_distinct below) held.symm
  have order : base.map nodeId = remote.map nodeId := by
    rw [← h]
    refine mergedChildren_ids_of_remote distinct fun id => ?_
    rw [← nodeMap_mergedChildren, h, ← each id, isSome_nodeMap]
  exact Keyed.ext_of_get distinct order.symm each
termination_by 2 * (weightList loc + weightList remote)
decreasing_by
  have := weight_nodeMap_lt loc id
  have := weight_nodeMap_lt remote id
  omega
end

mutual
/-- Absorption: a node merged with its own merge is that merge. -/
theorem mergedNode_absorb {base loc remote : Option BookmarkNode}
    (distinct : ∀ x, remote = some x → x.Distinct) :
    mergedNode base loc (mergedNode base loc remote) = mergedNode base loc remote := by
  rcases ThreeWay.reconcile_cases (some base) loc remote (clashNode base loc remote) with
    ⟨same, _⟩ | ⟨_, left, _⟩ | ⟨_, right, _⟩ | ⟨clash, value⟩
  · rw [same, mergedNode_self, mergedNode_self]
  · rw [Option.some.inj left, mergedNode_base_left, mergedNode_base_left]
  · rw [Option.some.inj right, mergedNode_base_right, mergedNode_self]
  · have outcome : mergedNode base loc remote = clashNode base loc remote :=
      (mergedNode_eq base loc remote).trans value
    match loc, remote with
    | none, _ => rw [outcome, clashNode, outcome, clashNode]
    | some l, none => rw [outcome, clashNode, mergedNode_self]
    | some l, some r =>
        by_cases same : SameKind l r
        · have absorbed := mergedPresent_absorb base same (distinct r rfl)
          have moved : mergedNode base (some l) (some r) ≠ base := fun h =>
            clash.2.2 (congrArg some (base_of_mergedNode distinct h))
          rw [outcome] at moved ⊢
          rw [mergedNode_eq]
          rcases ThreeWay.reconcile_cases (some base) (some l) (clashNode base (some l) (some r))
              (clashNode base (some l) (clashNode base (some l) (some r))) with
            ⟨agreed, kept⟩ | ⟨_, left, _⟩ | ⟨_, right, _⟩ | ⟨_, kept⟩
          · exact kept.trans agreed
          · exact absurd left clash.2.1
          · exact absurd (Option.some.inj right) moved
          · rw [kept]
            exact congrArg some absorbed
        · rw [outcome, clashNode, mergedPresent_of_differ same, outcome, clashNode,
            mergedPresent_of_differ same]
termination_by 2 * (weightOption loc + weightOption remote) + 1
decreasing_by simp only [weightOption]; omega

theorem mergedPresent_absorb (base : Option BookmarkNode) {loc remote : BookmarkNode}
    (same : SameKind loc remote) (distinct : remote.Distinct) :
    mergedPresent base loc (mergedPresent base loc remote) = mergedPresent base loc remote := by
  match loc, remote with
  | .folder i n a m cs, .folder i' n' a' m' cs' =>
      cases same
      rw [mergedPresent_folder, mergedPresent_folder]
      simp only [ThreeWay.reconcile_absorb]
      rw [mergedChildren_absorb _ distinct.2]
  | .url .., .url .. =>
      cases same
      rw [mergedPresent_url, mergedPresent_url]
      simp only [ThreeWay.reconcile_absorb]
termination_by 2 * (loc.weight + remote.weight)
decreasing_by simp only [weight]; omega

theorem mergedChildren_absorb (base : Option (List BookmarkNode)) {loc remote : List BookmarkNode}
    (below : DistinctList remote) :
    mergedChildren base loc (mergedChildren base loc remote) = mergedChildren base loc remote := by
  have each : ∀ id, mergedNode (nodeMap (base.getD []) id) (nodeMap loc id)
      (nodeMap (mergedChildren base loc remote) id) = nodeMap (mergedChildren base loc remote) id := by
    intro id
    rw [nodeMap_mergedChildren]
    exact mergedNode_absorb fun _ => nodeMap_distinct below
  have distinct := mergedChildren_nodup base loc remote
  refine Keyed.ext_of_get (mergedChildren_nodup base loc _)
    (mergedChildren_ids_of_remote distinct fun id => ?_) fun id => ?_
  · rw [each, isSome_nodeMap]
  · exact (nodeMap_mergedChildren base loc _ id).trans (each id)
termination_by 2 * (weightList loc + weightList remote)
decreasing_by
  have := weight_nodeMap_lt loc id
  have := weight_nodeMap_lt remote id
  omega
end

theorem get_eq_rootMap (roots : List BookmarkRoot) (key : String) :
    Keyed.get BookmarkRoot.key roots key = (rootMap roots key).map (BookmarkRoot.mk key) := by
  rw [rootMap]
  cases found : Keyed.get BookmarkRoot.key roots key with
  | none => rfl
  | some root =>
      obtain ⟨_, rfl⟩ := Keyed.get_mem found
      rfl

theorem rootKeys_of_nodup (base loc : List BookmarkRoot) {remote : List BookmarkRoot}
    (distinct : (remote.map BookmarkRoot.key).Nodup) :
    ∃ rest, rootKeys base loc remote = remote.map BookmarkRoot.key ++ rest ∧
      ∀ key ∈ rest, key ∉ remote.map BookmarkRoot.key := by
  refine ⟨Keyed.unseen (remote.map BookmarkRoot.key) ((loc ++ base).map BookmarkRoot.key), ?_,
    fun key member => (Keyed.mem_unseen.mp member).2⟩
  rw [rootKeys, List.append_assoc, List.map_append,
    Keyed.unseen_append_of_nodup distinct fun _ _ => List.not_mem_nil, List.append_nil]

/-- Where the remote node wins under every root key, the remote root list is returned. -/
theorem mergedRoots_of_remote {base loc remote : List BookmarkRoot}
    (distinct : (remote.map BookmarkRoot.key).Nodup)
    (each : ∀ key, mergedNode (rootMap base key) (rootMap loc key) (rootMap remote key) =
      rootMap remote key) : mergedRoots base loc remote = remote := by
  obtain ⟨rest, order, gone⟩ := rootKeys_of_nodup base loc distinct
  have keys : (mergedRoots base loc remote).map BookmarkRoot.key =
      remote.map BookmarkRoot.key := by
    rw [mergedRoots_keys, order, List.filter_append, List.filter_eq_self.mpr,
      List.filter_eq_nil_iff.mpr, List.append_nil]
    · exact fun key member => by
        rw [each, rootMap_eq_none_iff.mpr (gone key member)]
        exact Bool.false_ne_true
    · exact fun key member => by
        rw [each, Option.isSome_iff_ne_none, ne_eq, rootMap_eq_none_iff, not_not]
        exact member
  refine Keyed.ext_of_get (mergedRoots_nodup base loc remote) keys fun key => ?_
  rw [get_eq_rootMap, get_eq_rootMap, rootMap_mergedRoots, each]

theorem mergedRoots_absorb (base loc : List BookmarkRoot) {remote : List BookmarkRoot}
    (distinct : ∀ root ∈ remote, root.node.Distinct) :
    mergedRoots base loc (mergedRoots base loc remote) = mergedRoots base loc remote := by
  refine mergedRoots_of_remote (mergedRoots_nodup base loc remote) fun key => ?_
  rw [rootMap_mergedRoots]
  exact mergedNode_absorb fun _ found => distinct _ (rootMap_mem found)

end HeliumSync
