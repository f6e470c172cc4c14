import HeliumSync.Merge

/-! What one step of the merge decides, with the conflict counter taken off:
nodes, child lists, root lists and whole snapshots. -/
namespace HeliumSync
open BookmarkNode (nodeId weight weightList weightOption DistinctList)
open ThreeWay (reconcile Clashes)

/-- A function of the conflict counter that only adds to it. -/
def Counts {β : Type} (f : Nat → β × Nat) : Prop := ∀ n, f n = ((f 0).1, n + (f 0).2)

theorem mergeValue_counts {T : Type} [DecidableEq T] (base : Option T) (loc remote : T) :
    Counts (mergeValue base loc remote) := by
  intro n
  simp only [mergeValue]
  split_ifs <;> simp

theorem mergeValue_fst {T : Type} [DecidableEq T] (base : Option T) (loc remote : T) (n : Nat) :
    (mergeValue base loc remote n).1 = reconcile base loc remote remote := by
  simp only [mergeValue, reconcile]
  split_ifs <;> rfl

mutual
theorem mergeOptionalNode_counts (base loc remote : Option BookmarkNode) :
    Counts (mergeOptionalNode base loc remote) := by
  intro n
  rw [mergeOptionalNode.eq_def, mergeOptionalNode.eq_def base loc remote 0]
  split_ifs
  · rfl
  · rfl
  · rfl
  · match base, loc, remote with
    | _, some l, some r => simp only [mergePresentNode_counts _ l r n]
    | some _, none, some _ => simp
    | some _, some _, none => simp
    | none, none, some _ => simp
    | none, some _, none => simp
    | _, none, none => simp
termination_by 2 * (weightOption loc + weightOption remote) + 1
decreasing_by exact Nat.lt_succ_self _

theorem mergePresentNode_counts (base : Option BookmarkNode) (loc remote : BookmarkNode) :
    Counts (mergePresentNode base loc remote) := by
  intro n
  match loc, remote with
  | .folder i nm a m cs, .folder i' nm' a' m' cs' =>
      rw [mergePresentNode, mergePresentNode]
      split_ifs
      · simp only [mergeValue_fst]
        rw [mergeChildren_counts _ cs cs', mergeChildren_counts _ cs cs' (mergeValue _ m m' _).2,
          mergeValue_counts _ m m', mergeValue_counts _ m m' (mergeValue _ a a' _).2,
          mergeValue_counts _ a a', mergeValue_counts _ a a' (mergeValue _ nm nm' _).2,
          mergeValue_counts _ nm nm']
        simp only [Nat.add_assoc]
      · simp
  | .url i nm u a, .url i' nm' u' a' =>
      rw [mergePresentNode, mergePresentNode]
      split_ifs
      · simp only [mergeValue_fst]
        rw [mergeValue_counts _ a a', mergeValue_counts _ a a' (mergeValue _ u u' _).2,
          mergeValue_counts _ u u', mergeValue_counts _ u u' (mergeValue _ nm nm' _).2,
          mergeValue_counts _ nm nm']
        simp only [Nat.add_assoc]
      · simp
  | .folder .., .url .. => simp [mergePresentNode]
  | .url .., .folder .. => simp [mergePresentNode]
termination_by 2 * (loc.weight + remote.weight)
decreasing_by all_goals simp only [weight]; omega

theorem mergeChildren_counts (base : Option (List BookmarkNode)) (loc remote : List BookmarkNode) :
    Counts (mergeChildren base loc remote) := by
  intro n
  have step : ∀ id m,
      mergeOptionalNode (nodeMap (base.getD []) id) (nodeMap loc id) (nodeMap remote id) m = _ :=
    fun id m => mergeOptionalNode_counts _ _ _ m
  rw [mergeChildren, mergeChildren, Keyed.filterMapState_counter step,
    Keyed.filterMapState_counter step, Nat.zero_add]
termination_by 2 * (weightList loc + weightList remote)
decreasing_by
  have := weight_nodeMap_lt loc id
  have := weight_nodeMap_lt remote id
  omega
end

/-- The node `merge_optional_node` returns. -/
def mergedNode (base loc remote : Option BookmarkNode) : Option BookmarkNode :=
  (mergeOptionalNode base loc remote 0).1

/-- The node `merge_present_node` returns. -/
def mergedPresent (base : Option BookmarkNode) (loc remote : BookmarkNode) : BookmarkNode :=
  (mergePresentNode base loc remote 0).1

/-- The list `merge_children` returns. -/
def mergedChildren (base : Option (List BookmarkNode)) (loc remote : List BookmarkNode) :
    List BookmarkNode :=
  (mergeChildren base loc remote 0).1

/-- What remains of a node on which both sides moved apart. -/
def clashNode (base : Option BookmarkNode) : Option BookmarkNode → Option BookmarkNode →
    Option BookmarkNode
  | some l, some r => some (mergedPresent base l r)
  | none, remote => remote
  | some l, none => some l

/-- One step of the merge as a three-way choice. -/
theorem mergedNode_eq (base loc remote : Option BookmarkNode) :
    mergedNode base loc remote =
      reconcile (some base) loc remote (clashNode base loc remote) := by
  rw [mergedNode, mergeOptionalNode.eq_def]
  simp only [reconcile, Option.some.injEq]
  split_ifs with same left right
  · rfl
  · rfl
  · rfl
  · match base, loc, remote with
    | _, some _, some _ => rfl
    | some _, none, some _ => rfl
    | some _, some _, none => rfl
    | none, none, some _ => exact absurd rfl left
    | none, some _, none => exact absurd rfl right
    | _, none, none => exact absurd rfl same

theorem mergedPresent_folder (base : Option BookmarkNode) (i n n' : String)
    (a m a' m' : Option String) (cs cs' : List BookmarkNode) :
    mergedPresent base (.folder i n a m cs) (.folder i n' a' m' cs') =
      .folder i (reconcile ((baseFolder base i).map (·.1)) n n' n')
        (reconcile ((baseFolder base i).map (·.2.1)) a a' a')
        (reconcile ((baseFolder base i).map (·.2.2.1)) m m' m')
        (mergedChildren ((baseFolder base i).map (·.2.2.2)) cs cs') := by
  rw [mergedPresent, mergePresentNode, if_pos rfl]
  simp only [mergeValue_fst, mergedChildren]
  rw [mergeChildren_counts]

theorem mergedPresent_url (base : Option BookmarkNode) (i n u n' u' : String)
    (a a' : Option String) :
    mergedPresent base (.url i n u a) (.url i n' u' a') =
      .url i (reconcile ((baseUrl base i).map (·.1)) n n' n')
        (reconcile ((baseUrl base i).map (·.2.1)) u u' u')
        (reconcile ((baseUrl base i).map (·.2.2)) a a' a') := by
  rw [mergedPresent, mergePresentNode, if_pos rfl]
  simp only [mergeValue_fst]

/-- Two nodes are the same kind of node under the same id. -/
def SameKind : BookmarkNode → BookmarkNode → Prop
  | .folder i _ _ _ _, .folder i' _ _ _ _ => i = i'
  | .url i _ _ _, .url i' _ _ _ => i = i'
  | _, _ => False

instance : DecidableRel SameKind
  | .folder i _ _ _ _, .folder i' _ _ _ _ => inferInstanceAs (Decidable (i = i'))
  | .url i _ _ _, .url i' _ _ _ => inferInstanceAs (Decidable (i = i'))
  | .folder .., .url .. => isFalse nofun
  | .url .., .folder .. => isFalse nofun

theorem mergedPresent_of_differ {base : Option BookmarkNode} {loc remote : BookmarkNode}
    (differ : ¬ SameKind loc remote) : mergedPresent base loc remote = remote := by
  rw [mergedPresent]
  match loc, remote with
  | .folder i .., .folder i' .. =>
      have other : i ≠ i' := differ
      rw [mergePresentNode, if_neg other]
  | .url i .., .url i' .. =>
      have other : i ≠ i' := differ
      rw [mergePresentNode, if_neg other]
  | .folder .., .url .. => simp [mergePresentNode]
  | .url .., .folder .. => simp [mergePresentNode]

theorem SameKind.nodeId_eq {loc remote : BookmarkNode} (h : SameKind loc remote) :
    loc.nodeId = remote.nodeId := by
  match loc, remote with
  | .folder .., .folder .. => exact h
  | .url .., .url .. => exact h

theorem mergedPresent_sameKind {base : Option BookmarkNode} {loc remote : BookmarkNode}
    (same : SameKind loc remote) : SameKind loc (mergedPresent base loc remote) := by
  match loc, remote with
  | .folder .., .folder .. => cases same; rw [mergedPresent_folder]; rfl
  | .url .., .url .. => cases same; rw [mergedPresent_url]; rfl

theorem mergedPresent_nodeId {base : Option BookmarkNode} {loc remote : BookmarkNode} {id : String}
    (left : loc.nodeId = id) (right : remote.nodeId = id) :
    (mergedPresent base loc remote).nodeId = id := by
  by_cases same : SameKind loc remote
  · rw [← (mergedPresent_sameKind same).nodeId_eq, left]
  · rw [mergedPresent_of_differ same, right]

/-- A merge of nodes found under one id is again found under that id. -/
theorem mergedNode_nodeId {base loc remote : Option BookmarkNode} {id : String} {node : BookmarkNode}
    (left : ∀ x, loc = some x → x.nodeId = id) (right : ∀ x, remote = some x → x.nodeId = id)
    (h : mergedNode base loc remote = some node) : node.nodeId = id := by
  rw [mergedNode_eq] at h
  rcases ThreeWay.reconcile_cases (some base) loc remote (clashNode base loc remote) with
    ⟨_, value⟩ | ⟨_, _, value⟩ | ⟨_, _, value⟩ | ⟨_, value⟩ <;> rw [value] at h
  · exact left node h
  · exact right node h
  · exact left node h
  · match loc, remote with
    | some l, some r =>
        cases h
        exact mergedPresent_nodeId (left l rfl) (right r rfl)
    | none, some r => exact right node h
    | some l, none => exact left node h

@[simp] theorem mergedNode_self (base node : Option BookmarkNode) :
    mergedNode base node node = node := by rw [mergedNode_eq, ThreeWay.reconcile_self]

theorem mergedNode_base_left (base remote : Option BookmarkNode) :
    mergedNode base base remote = remote := by
  rw [mergedNode_eq, ThreeWay.reconcile_of_local rfl]

theorem mergedNode_base_right (base loc : Option BookmarkNode) :
    mergedNode base loc base = loc := by
  rw [mergedNode_eq, ThreeWay.reconcile_of_remote rfl]

theorem mergedChildren_eq (base : Option (List BookmarkNode)) (loc remote : List BookmarkNode) :
    mergedChildren base loc remote = (childIds base loc remote).filterMap
      (fun id => mergedNode (nodeMap (base.getD []) id) (nodeMap loc id) (nodeMap remote id)) := by
  have step : ∀ id m,
      mergeOptionalNode (nodeMap (base.getD []) id) (nodeMap loc id) (nodeMap remote id) m = _ :=
    fun id m => mergeOptionalNode_counts _ _ _ m
  rw [mergedChildren, mergeChildren, Keyed.filterMapState_counter step]
  rfl

theorem mergedChild_nodeId (base : Option (List BookmarkNode)) (loc remote : List BookmarkNode)
    (id : String) (node : BookmarkNode)
    (h : mergedNode (nodeMap (base.getD []) id) (nodeMap loc id) (nodeMap remote id) =
      some node) : node.nodeId = id :=
  mergedNode_nodeId (fun _ found => (nodeMap_mem found).2) (fun _ found => (nodeMap_mem found).2) h

theorem nodeMap_eq_none_iff {nodes : List BookmarkNode} {id : String} :
    nodeMap nodes id = none ↔ id ∉ nodes.map nodeId := Keyed.get_eq_none_iff

/-- The merged folder holds under each id the merge of what the three sides hold there. -/
theorem nodeMap_mergedChildren (base : Option (List BookmarkNode)) (loc remote : List BookmarkNode)
    (id : String) :
    nodeMap (mergedChildren base loc remote) id =
      mergedNode (nodeMap (base.getD []) id) (nodeMap loc id) (nodeMap remote id) := by
  rw [mergedChildren_eq, nodeMap, Keyed.get_filterMap (mergedChild_nodeId base loc remote)]
  split_ifs with member
  · rfl
  · have absent : id ∉ (remote ++ loc ++ base.getD []).map nodeId := by
      simpa [childIds, Keyed.mem_unseen] using member
    simp only [List.map_append, List.mem_append, not_or] at absent
    rw [nodeMap_eq_none_iff.mpr absent.2, nodeMap_eq_none_iff.mpr absent.1.1,
      nodeMap_eq_none_iff.mpr absent.1.2, mergedNode_self]

theorem mergedChildren_ids (base : Option (List BookmarkNode)) (loc remote : List BookmarkNode) :
    (mergedChildren base loc remote).map nodeId = (childIds base loc remote).filter
      (fun id => (mergedNode (nodeMap (base.getD []) id) (nodeMap loc id)
        (nodeMap remote id)).isSome) := by
  rw [mergedChildren_eq, Keyed.map_key_filterMap (mergedChild_nodeId base loc remote)]

theorem mergedChildren_nodup (base : Option (List BookmarkNode)) (loc remote : List BookmarkNode) :
    ((mergedChildren base loc remote).map nodeId).Nodup := by
  rw [mergedChildren_ids]
  exact (Keyed.nodup_unseen _ _).filter _

/-- With distinct sibling ids a lookup finds exactly the child of that id. -/
theorem nodeMap_eq_some_iff {nodes : List BookmarkNode} (distinct : (nodes.map nodeId).Nodup)
    {id : String} {node : BookmarkNode} :
    nodeMap nodes id = some node ↔ node ∈ nodes ∧ node.nodeId = id :=
  Keyed.get_eq_some_iff distinct

theorem nodeMap_distinct {nodes : List BookmarkNode} (distinct : DistinctList nodes) {id : String}
    {node : BookmarkNode} (h : nodeMap nodes id = some node) : node.Distinct :=
  BookmarkNode.distinctList_iff.mp distinct node (nodeMap_mem h).1

mutual
/-- Merging trees with distinct sibling ids gives such a tree. -/
theorem mergedNode_distinct (base : Option BookmarkNode) {loc remote : Option BookmarkNode}
    (left : ∀ x, loc = some x → x.Distinct) (right : ∀ x, remote = some x → x.Distinct)
    (node : BookmarkNode) (h : mergedNode base loc remote = some node) : node.Distinct := by
  rw [mergedNode_eq] at h
  rcases ThreeWay.reconcile_cases (some base) loc remote (clashNode base loc remote) with
    ⟨_, value⟩ | ⟨_, _, value⟩ | ⟨_, _, value⟩ | ⟨_, value⟩ <;> rw [value] at h
  · exact left node h
  · exact right node h
  · exact left node h
  · match here : loc, there : remote with
    | some l, some r => cases h; exact mergedPresent_distinct base (left l rfl) (right r rfl)
    | none, some r => exact right node h
    | some l, none => exact left node h
termination_by 2 * (weightOption loc + weightOption remote) + 1
decreasing_by simp only [here, there, weightOption]; omega

theorem mergedPresent_distinct (base : Option BookmarkNode) {loc remote : BookmarkNode}
    (left : loc.Distinct) (right : remote.Distinct) :
    (mergedPresent base loc remote).Distinct := by
  by_cases same : SameKind loc remote
  · match loc, remote with
    | .folder _ _ _ _ cs, .folder _ _ _ _ cs' =>
        cases same
        rw [mergedPresent_folder]
        exact ⟨mergedChildren_nodup _ cs cs', mergedChildren_distinct _ left.2 right.2⟩
    | .url .., .url .. => cases same; rw [mergedPresent_url]; trivial
  · rwa [mergedPresent_of_differ same]
termination_by 2 * (loc.weight + remote.weight)
decreasing_by simp only [weight]; omega

theorem mergedChildren_distinct (base : Option (List BookmarkNode)) {loc remote : List BookmarkNode}
    (left : DistinctList loc) (right : DistinctList remote) :
    DistinctList (mergedChildren base loc remote) := by
  rw [BookmarkNode.distinctList_iff]
  intro node member
  have found := (nodeMap_eq_some_iff (mergedChildren_nodup base loc remote)).mpr ⟨member, rfl⟩
  rw [nodeMap_mergedChildren] at found
  exact mergedNode_distinct _ (fun _ => nodeMap_distinct left) (fun _ => nodeMap_distinct right)
    node found
termination_by 2 * (weightList loc + weightList remote)
decreasing_by
  have := weight_nodeMap_lt loc node.nodeId
  have := weight_nodeMap_lt remote node.nodeId
  omega
end

/-- The roots `merge_bookmarks` returns. -/
def mergedRoots (base loc remote : List BookmarkRoot) : List BookmarkRoot :=
  (mergeRoots base loc remote 0).1

theorem mergedRoots_eq (base loc remote : List BookmarkRoot) :
    mergedRoots base loc remote = (rootKeys base loc remote).filterMap
      (fun key => (mergedNode (rootMap base key) (rootMap loc key) (rootMap remote key)).map
        (BookmarkRoot.mk key)) := by
  have step : ∀ key m,
      (let merged := mergeOptionalNode (rootMap base key) (rootMap loc key) (rootMap remote key) m
       (merged.1.map (BookmarkRoot.mk key), merged.2)) =
      ((mergedNode (rootMap base key) (rootMap loc key) (rootMap remote key)).map
        (BookmarkRoot.mk key),
        m + (mergeOptionalNode (rootMap base key) (rootMap loc key) (rootMap remote key) 0).2) :=
    fun key m => by simp only [mergeOptionalNode_counts _ _ _ m, mergedNode]
  rw [mergedRoots, mergeRoots, Keyed.filterMapState_counter step]

theorem mergedRoot_key (base loc remote : List BookmarkRoot) (key : String) (root : BookmarkRoot)
    (h : (mergedNode (rootMap base key) (rootMap loc key) (rootMap remote key)).map
      (BookmarkRoot.mk key) = some root) : root.key = key := by
  obtain ⟨_, _, rfl⟩ := Option.map_eq_some_iff.mp h
  rfl

theorem rootMap_eq_none_iff {roots : List BookmarkRoot} {key : String} :
    rootMap roots key = none ↔ key ∉ roots.map BookmarkRoot.key := by
  rw [rootMap, Option.map_eq_none_iff, Keyed.get_eq_none_iff]

/-- The merged snapshot holds under each root key the merge of the three roots of that key. -/
theorem rootMap_mergedRoots (base loc remote : List BookmarkRoot) (key : String) :
    rootMap (mergedRoots base loc remote) key =
      mergedNode (rootMap base key) (rootMap loc key) (rootMap remote key) := by
  rw [mergedRoots_eq, rootMap, Keyed.get_filterMap (mergedRoot_key base loc remote)]
  split_ifs with member
  · simp [Function.comp_def]
  · have absent : key ∉ (remote ++ loc ++ base).map BookmarkRoot.key := by
      simpa [rootKeys, Keyed.mem_unseen] using member
    simp only [List.map_append, List.mem_append, not_or] at absent
    rw [rootMap_eq_none_iff.mpr absent.2, rootMap_eq_none_iff.mpr absent.1.1,
      rootMap_eq_none_iff.mpr absent.1.2, mergedNode_self, Option.map_none]

theorem mergedRoots_keys (base loc remote : List BookmarkRoot) :
    (mergedRoots base loc remote).map BookmarkRoot.key = (rootKeys base loc remote).filter
      (fun key => (mergedNode (rootMap base key) (rootMap loc key) (rootMap remote key)).isSome) := by
  rw [mergedRoots_eq, Keyed.map_key_filterMap (mergedRoot_key base loc remote)]
  simp

theorem mergedRoots_nodup (base loc remote : List BookmarkRoot) :
    ((mergedRoots base loc remote).map BookmarkRoot.key).Nodup := by
  rw [mergedRoots_keys]
  exact (Keyed.nodup_unseen _ _).filter _

theorem mergedRoots_distinct {base loc remote : List BookmarkRoot}
    (left : ∀ root ∈ loc, root.node.Distinct) (right : ∀ root ∈ remote, root.node.Distinct) :
    ∀ root ∈ mergedRoots base loc remote, root.node.Distinct := by
  intro root held
  have found : rootMap (mergedRoots base loc remote) root.key = some root.node := by
    rw [rootMap, Keyed.get_of_mem (mergedRoots_nodup base loc remote) held, Option.map_some]
  rw [rootMap_mergedRoots] at found
  exact mergedNode_distinct _ (fun _ h => left _ (rootMap_mem h)) (fun _ h => right _ (rootMap_mem h))
    root.node found

/-- The roots a missing base contributes. -/
def baseRoots (base : Option BookmarkSnapshotV1) : List BookmarkRoot :=
  (base.map BookmarkSnapshotV1.roots).getD []

/-- Two snapshots name the same format, browser and profile directory. -/
def Mergeable (left right : BookmarkSnapshotV1) : Prop :=
  left.format = right.format ∧ left.sourceBrowser = right.sourceBrowser ∧
    left.profileDirectory = right.profileDirectory

theorem validateMergePair_ok {left right : BookmarkSnapshotV1} :
    validateMergePair left right = .ok () ↔ Mergeable left right := by
  unfold validateMergePair Mergeable
  split_ifs with differ
  · simp only [false_iff]
    tauto
  · simp only [true_iff]
    tauto

/-- Every accepted merge, field by field. -/
theorem mergeBookmarks_ok {base : Option BookmarkSnapshotV1} {loc remote : BookmarkSnapshotV1}
    {merged : BookmarkMergeResult} :
    mergeBookmarks base loc remote = .ok merged ↔
      Mergeable loc remote ∧ (∀ b, base = some b → Mergeable b loc) ∧
      merged = ⟨⟨remote.format, remote.sourceBrowser, remote.profileDirectory,
        max loc.chromiumVersion remote.chromiumVersion,
        mergedRoots (baseRoots base) loc.roots remote.roots⟩,
        (mergeRoots (baseRoots base) loc.roots remote.roots 0).2⟩ := by
  unfold mergeBookmarks
  cases pair : validateMergePair loc remote with
  | error e =>
      have refused : ¬ Mergeable loc remote := fun h => by
        rw [validateMergePair_ok.mpr h] at pair; cases pair
      exact ⟨nofun, fun h => absurd h.1 refused⟩
  | ok _ =>
      rw [iff_true_intro (validateMergePair_ok.mp pair), true_and]
      cases base with
      | none => exact ⟨fun h => by cases h; exact ⟨nofun, rfl⟩, fun h => by rw [h.2]; rfl⟩
      | some b =>
          cases past : validateMergePair b loc with
          | error e =>
              have refused : ¬ Mergeable b loc := fun h => by
                rw [validateMergePair_ok.mpr h] at past; cases past
              refine ⟨fun h => ?_, fun h => absurd (h.1 b rfl) refused⟩
              simp only [past] at h
              cases h
          | ok _ =>
              have accepted : ∀ b', some b = some b' → Mergeable b' loc := fun b' same => by
                cases same; exact validateMergePair_ok.mp past
              refine ⟨fun h => ⟨accepted, ?_⟩, fun h => ?_⟩
              · simp only [past] at h
                cases h
                rfl
              · simp only [past, h.2]
                rfl

end HeliumSync
