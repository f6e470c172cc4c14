import HeliumSync.MergeLaw
import Mathlib.Data.List.Forall2
import Mathlib.Algebra.BigOperators.Group.List.Basic

/-! Swapping the two sides of a merge: the same conflicts are counted, and without any the
outcome is the same up to the order of siblings. -/
namespace HeliumSync
open BookmarkNode (nodeId weight weightList weightOption)
open ThreeWay (reconcile Clashes)

/-- What `merge_value` adds to the counter. -/
def conflictsValue {T : Type} [DecidableEq T] (base : Option T) (loc remote : T) : Nat :=
  if Clashes base loc remote then 1 else 0

/-- What `merge_optional_node` adds to the counter. -/
def conflictsNode (base loc remote : Option BookmarkNode) : Nat :=
  (mergeOptionalNode base loc remote 0).2

/-- What `merge_present_node` adds to the counter. -/
def conflictsPresent (base : Option BookmarkNode) (loc remote : BookmarkNode) : Nat :=
  (mergePresentNode base loc remote 0).2

/-- What `merge_children` adds to the counter. -/
def conflictsChildren (base : Option (List BookmarkNode)) (loc remote : List BookmarkNode) : Nat :=
  (mergeChildren base loc remote 0).2

theorem mergeValue_snd {T : Type} [DecidableEq T] (base : Option T) (loc remote : T) (n : Nat) :
    (mergeValue base loc remote n).2 = n + conflictsValue base loc remote := by
  unfold mergeValue conflictsValue Clashes
  split_ifs <;> simp_all

theorem conflictsValue_comm {T : Type} [DecidableEq T] (base : Option T) (loc remote : T) :
    conflictsValue base loc remote = conflictsValue base remote loc := by
  unfold conflictsValue
  simp only [ThreeWay.clashes_comm]

theorem calm_of_conflictsValue {T : Type} [DecidableEq T] {base : Option T} {loc remote : T}
    (none : conflictsValue base loc remote = 0) : ¬ Clashes base loc remote := by
  intro clashes
  rw [conflictsValue, if_pos clashes] at none
  cases none

/-- A node counts something only where both sides moved apart. -/
def clashConflicts (base : Option BookmarkNode) : Option BookmarkNode → Option BookmarkNode → Nat
  | some l, some r => conflictsPresent base l r
  | none, none => 0
  | _, _ => 1

theorem conflictsNode_eq (base loc remote : Option BookmarkNode) :
    conflictsNode base loc remote =
      if Clashes (some base) loc remote then clashConflicts base loc remote else 0 := by
  rw [conflictsNode, mergeOptionalNode.eq_def]
  by_cases same : loc = remote
  · rw [if_pos same, if_neg fun clashes => clashes.1 same]
  by_cases left : loc = base
  · rw [if_neg same, if_pos left, if_neg fun clashes => clashes.2.1 (congrArg some left)]
  by_cases right : remote = base
  · rw [if_neg same, if_neg left, if_pos right,
      if_neg fun clashes => clashes.2.2 (congrArg some right)]
  have clashes : Clashes (some base) loc remote :=
    ⟨same, fun h => left (Option.some.inj h), fun h => right (Option.some.inj h)⟩
  rw [if_neg same, if_neg left, if_neg right, if_pos clashes]
  match base, loc, remote with
  | _, some _, some _ => rfl
  | some _, none, some _ => rfl
  | some _, some _, none => rfl
  | none, none, some _ => exact absurd rfl left
  | none, some _, none => exact absurd rfl right
  | _, none, none => exact absurd rfl same

theorem conflictsPresent_folder (base : Option BookmarkNode) (i n n' : String)
    (a m a' m' : Option String) (cs cs' : List BookmarkNode) :
    conflictsPresent base (.folder i n a m cs) (.folder i n' a' m' cs') =
      conflictsValue ((baseFolder base i).map (·.1)) n n' +
      conflictsValue ((baseFolder base i).map (·.2.1)) a a' +
      conflictsValue ((baseFolder base i).map (·.2.2.1)) m m' +
      conflictsChildren ((baseFolder base i).map (·.2.2.2)) cs cs' := by
  rw [conflictsPresent, mergePresentNode, if_pos rfl]
  simp only [mergeValue_snd, conflictsChildren]
  rw [mergeChildren_counts]
  simp only [Nat.zero_add]

theorem conflictsPresent_url (base : Option BookmarkNode) (i n u n' u' : String)
    (a a' : Option String) :
    conflictsPresent base (.url i n u a) (.url i n' u' a') =
      conflictsValue ((baseUrl base i).map (·.1)) n n' +
      conflictsValue ((baseUrl base i).map (·.2.1)) u u' +
      conflictsValue ((baseUrl base i).map (·.2.2)) a a' := by
  rw [conflictsPresent, mergePresentNode, if_pos rfl]
  simp only [mergeValue_snd, Nat.zero_add]

/-- Nodes of different kind or id are one conflict. -/
theorem conflictsPresent_of_differ {base : Option BookmarkNode} {loc remote : BookmarkNode}
    (differ : ¬ SameKind loc remote) : conflictsPresent base loc remote = 1 := by
  unfold conflictsPresent
  match loc, remote with
  | .folder i .., .folder i' .. =>
      have other : i ≠ i' := differ
      rw [mergePresentNode, if_neg other]
  | .url i .., .url i' .. =>
      have other : i ≠ i' := differ
      rw [mergePresentNode, if_neg other]
  | .folder .., .url .. => simp [mergePresentNode]
  | .url .., .folder .. => simp [mergePresentNode]

theorem conflictsChildren_eq (base : Option (List BookmarkNode)) (loc remote : List BookmarkNode) :
    conflictsChildren base loc remote = ((childIds base loc remote).map fun id =>
      conflictsNode (nodeMap (base.getD []) id) (nodeMap loc id) (nodeMap remote id)).sum := by
  have step : ∀ id m,
      mergeOptionalNode (nodeMap (base.getD []) id) (nodeMap loc id) (nodeMap remote id) m = _ :=
    fun id m => mergeOptionalNode_counts _ _ _ m
  rw [conflictsChildren, mergeChildren, Keyed.filterMapState_counter step, Nat.zero_add]
  rfl

theorem conflictsRoots_eq (base loc remote : List BookmarkRoot) :
    (mergeRoots base loc remote 0).2 = ((rootKeys base loc remote).map fun key =>
      conflictsNode (rootMap base key) (rootMap loc key) (rootMap remote key)).sum := by
  have step : ∀ key m,
      (let merged := mergeOptionalNode (rootMap base key) (rootMap loc key) (rootMap remote key) m
       (merged.1.map (BookmarkRoot.mk key), merged.2)) =
      ((mergedNode (rootMap base key) (rootMap loc key) (rootMap remote key)).map
        (BookmarkRoot.mk key),
        m + conflictsNode (rootMap base key) (rootMap loc key) (rootMap remote key)) := by
    intro key m
    simp only [mergeOptionalNode_counts _ _ _ m, mergedNode, conflictsNode]
  rw [mergeRoots, Keyed.filterMapState_counter step, Nat.zero_add]

theorem SameKind.comm {a b : BookmarkNode} : SameKind a b ↔ SameKind b a := by
  cases a <;> cases b <;> simp [SameKind, eq_comm]

/-- Both orders of the two sides visit the same ids. -/
theorem childIds_perm (base : Option (List BookmarkNode)) (loc remote : List BookmarkNode) :
    (childIds base loc remote).Perm (childIds base remote loc) := by
  apply (List.perm_ext_iff_of_nodup (Keyed.nodup_unseen _ _) (Keyed.nodup_unseen _ _)).mpr
  intro id
  simp only [Keyed.mem_unseen, List.map_append, List.mem_append]
  tauto

theorem rootKeys_perm (base loc remote : List BookmarkRoot) :
    (rootKeys base loc remote).Perm (rootKeys base remote loc) := by
  apply (List.perm_ext_iff_of_nodup (Keyed.nodup_unseen _ _) (Keyed.nodup_unseen _ _)).mpr
  intro key
  simp only [Keyed.mem_unseen, List.map_append, List.mem_append]
  tauto

mutual
/-- Every asymmetric choice of the merge is one that is counted on either side. -/
theorem conflictsNode_comm (base loc remote : Option BookmarkNode) :
    conflictsNode base loc remote = conflictsNode base remote loc := by
  have inner : clashConflicts base loc remote = clashConflicts base remote loc := by
    match loc, remote with
    | some l, some r => exact conflictsPresent_comm base l r
    | none, none | none, some _ | some _, none => rfl
  have clashes : Clashes (some base) loc remote ↔ Clashes (some base) remote loc :=
    ThreeWay.clashes_comm
  rw [conflictsNode_eq, conflictsNode_eq]
  simp only [clashes, inner]
termination_by 2 * (weightOption loc + weightOption remote) + 1
decreasing_by simp only [weightOption]; omega

theorem conflictsPresent_comm (base : Option BookmarkNode) (loc remote : BookmarkNode) :
    conflictsPresent base loc remote = conflictsPresent base remote loc := by
  by_cases same : SameKind loc remote
  · match loc, remote with
    | .folder i n a m cs, .folder i' n' a' m' cs' =>
        cases same
        have children := conflictsChildren_comm ((baseFolder base i).map (·.2.2.2)) cs cs'
        rw [conflictsPresent_folder, conflictsPresent_folder, children,
          conflictsValue_comm _ n n', conflictsValue_comm _ a a', conflictsValue_comm _ m m']
    | .url i n u a, .url i' n' u' a' =>
        cases same
        rw [conflictsPresent_url, conflictsPresent_url, conflictsValue_comm _ n n',
          conflictsValue_comm _ u u', conflictsValue_comm _ a a']
  · rw [conflictsPresent_of_differ same, conflictsPresent_of_differ (mt SameKind.comm.mp same)]
termination_by 2 * (loc.weight + remote.weight)
decreasing_by simp only [weight]; omega

theorem conflictsChildren_comm (base : Option (List BookmarkNode)) (loc remote : List BookmarkNode) :
    conflictsChildren base loc remote = conflictsChildren base remote loc := by
  have each : ∀ id,
      conflictsNode (nodeMap (base.getD []) id) (nodeMap loc id) (nodeMap remote id) =
        conflictsNode (nodeMap (base.getD []) id) (nodeMap remote id) (nodeMap loc id) := by
    intro id
    exact conflictsNode_comm _ _ _
  rw [conflictsChildren_eq, conflictsChildren_eq]
  simp only [each]
  exact ((childIds_perm base loc remote).map _).sum_eq
termination_by 2 * (weightList loc + weightList remote)
decreasing_by
  have := weight_nodeMap_lt loc id
  have := weight_nodeMap_lt remote id
  omega
end

mutual
/-- Two nodes that differ in the order of siblings only. -/
inductive Alike : BookmarkNode → BookmarkNode → Prop
  | folder {id name dateAdded dateModified children children'} :
      AlikeList children children' →
      Alike (.folder id name dateAdded dateModified children)
        (.folder id name dateAdded dateModified children')
  | url {id name url dateAdded} : Alike (.url id name url dateAdded) (.url id name url dateAdded)

/-- Two lists of siblings that agree node by node once the first is put in order. -/
inductive AlikeList : List BookmarkNode → List BookmarkNode → Prop
  | nil : AlikeList [] []
  | cons {x y xs ys} : Alike x y → AlikeList xs ys → AlikeList (x :: xs) (y :: ys)
  | reorder {xs ys zs} : xs.Perm ys → AlikeList ys zs → AlikeList xs zs
end

mutual
theorem Alike.refl : ∀ node : BookmarkNode, Alike node node
  | .folder _ _ _ _ children => .folder (AlikeList.refl children)
  | .url .. => .url

theorem AlikeList.refl : ∀ nodes : List BookmarkNode, AlikeList nodes nodes
  | [] => .nil
  | node :: nodes => .cons (Alike.refl node) (AlikeList.refl nodes)
end

/-- Alike, or absent on both sides. -/
def AlikeOption : Option BookmarkNode → Option BookmarkNode → Prop := Option.Rel Alike

theorem AlikeOption.of_eq {a b : Option BookmarkNode} (same : a = b) : AlikeOption a b := by
  subst same
  cases a with
  | none => exact .none
  | some node => exact .some (Alike.refl node)

/-- Lists that are collected alike id by id, over the same ids in any order. -/
theorem alikeList_filterMap {f g : String → Option BookmarkNode} {ids ids' : List String}
    (same : ids.Perm ids') (each : ∀ id ∈ ids', AlikeOption (f id) (g id)) :
    AlikeList (ids.filterMap f) (ids'.filterMap g) := by
  apply AlikeList.reorder (same.filterMap f)
  clear same
  induction ids' with
  | nil => exact .nil
  | cons id ids' ih =>
      have rest := ih fun other later => each other (List.mem_cons_of_mem id later)
      have first := each id List.mem_cons_self
      rw [List.filterMap_cons, List.filterMap_cons]
      generalize f id = x at first
      generalize g id = y at first
      cases first with
      | none => exact rest
      | some alike => exact .cons alike rest

theorem conflictsChildren_zero {base : Option (List BookmarkNode)} {loc remote : List BookmarkNode}
    (calm : conflictsChildren base loc remote = 0) (id : String) :
    conflictsNode (nodeMap (base.getD []) id) (nodeMap loc id) (nodeMap remote id) = 0 := by
  by_cases visited : id ∈ childIds base loc remote
  · rw [conflictsChildren_eq, List.sum_eq_zero_iff_forall_eq_nat] at calm
    exact calm _ (List.mem_map_of_mem visited)
  · have absent : id ∉ (remote ++ loc ++ base.getD []).map nodeId := by
      simpa [childIds, Keyed.mem_unseen] using visited
    simp only [List.map_append, List.mem_append, not_or] at absent
    rw [nodeMap_eq_none_iff.mpr absent.2, nodeMap_eq_none_iff.mpr absent.1.1,
      nodeMap_eq_none_iff.mpr absent.1.2, conflictsNode_eq]
    exact if_neg fun clashes => clashes.1 rfl

mutual
/-- A merge without conflicts gives the same node whichever side is called remote. -/
theorem mergedNode_comm {base loc remote : Option BookmarkNode}
    (calm : conflictsNode base loc remote = 0) :
    AlikeOption (mergedNode base loc remote) (mergedNode base remote loc) := by
  by_cases clashes : Clashes (some base) loc remote
  · rw [conflictsNode_eq, if_pos clashes] at calm
    rw [mergedNode_eq, mergedNode_eq, ThreeWay.reconcile_clash clashes,
      ThreeWay.reconcile_clash clashes.symm]
    match here : loc, there : remote with
    | some l, some r => exact .some (mergedPresent_comm calm)
    | none, none => exact absurd rfl clashes.1
  · rw [mergedNode_eq, mergedNode_eq]
    exact .of_eq (ThreeWay.reconcile_comm clashes _ _)
termination_by 2 * (weightOption loc + weightOption remote) + 1
decreasing_by simp only [here, there, weightOption]; omega

theorem mergedPresent_comm {base : Option BookmarkNode} {loc remote : BookmarkNode}
    (calm : conflictsPresent base loc remote = 0) :
    Alike (mergedPresent base loc remote) (mergedPresent base remote loc) := by
  have same : SameKind loc remote := by
    by_contra differ
    rw [conflictsPresent_of_differ differ] at calm
    cases calm
  have field {T : Type} [DecidableEq T] {base : Option T} {loc remote : T}
      (none : conflictsValue base loc remote = 0) :
      reconcile base loc remote remote = reconcile base remote loc loc :=
    ThreeWay.reconcile_comm (calm_of_conflictsValue none) _ _
  match loc, remote with
  | .folder i n a m cs, .folder i' n' a' m' cs' =>
      cases same
      rw [conflictsPresent_folder] at calm
      simp only [Nat.add_eq_zero_iff] at calm
      obtain ⟨⟨⟨name, added⟩, modified⟩, children⟩ := calm
      rw [mergedPresent_folder, mergedPresent_folder, field name, field added, field modified]
      exact .folder (mergedChildren_comm children)
  | .url i n u a, .url i' n' u' a' =>
      cases same
      rw [conflictsPresent_url] at calm
      simp only [Nat.add_eq_zero_iff] at calm
      obtain ⟨⟨name, url⟩, added⟩ := calm
      rw [mergedPresent_url, mergedPresent_url, field name, field url, field added]
      exact .url
termination_by 2 * (loc.weight + remote.weight)
decreasing_by simp only [weight]; omega

theorem mergedChildren_comm {base : Option (List BookmarkNode)} {loc remote : List BookmarkNode}
    (calm : conflictsChildren base loc remote = 0) :
    AlikeList (mergedChildren base loc remote) (mergedChildren base remote loc) := by
  rw [mergedChildren_eq, mergedChildren_eq]
  apply alikeList_filterMap (childIds_perm base loc remote)
  intro id _
  exact mergedNode_comm (conflictsChildren_zero calm id)
termination_by 2 * (weightList loc + weightList remote)
decreasing_by
  have := weight_nodeMap_lt loc id
  have := weight_nodeMap_lt remote id
  omega
end

/-- Two root lists that differ in the order of roots and of siblings only. -/
def AlikeRoots (roots roots' : List BookmarkRoot) : Prop :=
  ∃ ordered, roots.Perm ordered ∧
    List.Forall₂ (fun a b => a.key = b.key ∧ Alike a.node b.node) ordered roots'

theorem mergedRoots_comm {base loc remote : List BookmarkRoot}
    (calm : (mergeRoots base loc remote 0).2 = 0) :
    AlikeRoots (mergedRoots base loc remote) (mergedRoots base remote loc) := by
  rw [conflictsRoots_eq, List.sum_eq_zero_iff_forall_eq_nat] at calm
  have perm := rootKeys_perm base loc remote
  have each : ∀ key ∈ rootKeys base remote loc, AlikeOption
      (mergedNode (rootMap base key) (rootMap loc key) (rootMap remote key))
      (mergedNode (rootMap base key) (rootMap remote key) (rootMap loc key)) := by
    intro key visited
    exact mergedNode_comm (calm _ (List.mem_map_of_mem (perm.mem_iff.mpr visited)))
  rw [mergedRoots_eq, mergedRoots_eq]
  refine ⟨_, perm.filterMap _, ?_⟩
  clear perm calm
  generalize rootKeys base remote loc = keys at each ⊢
  induction keys with
  | nil => exact .nil
  | cons key keys ih =>
      have rest := ih fun other later => each other (List.mem_cons_of_mem key later)
      have first := each key List.mem_cons_self
      rw [List.filterMap_cons, List.filterMap_cons]
      generalize mergedNode (rootMap base key) (rootMap loc key) (rootMap remote key) = x at first
      generalize mergedNode (rootMap base key) (rootMap remote key) (rootMap loc key) = y at first
      cases first with
      | none => exact rest
      | some alike => exact .cons ⟨rfl, alike⟩ rest

/-- Swapping the sides of an accepted merge keeps the conflict count, and without a conflict
the version and the trees. -/
theorem merge_symmetric_up_to_conflicts {base : Option BookmarkSnapshotV1}
    {loc remote : BookmarkSnapshotV1} {merged : BookmarkMergeResult}
    (accepted : mergeBookmarks base loc remote = .ok merged) :
    ∃ swapped, mergeBookmarks base remote loc = .ok swapped ∧
      swapped.conflicts = merged.conflicts ∧
      (merged.conflicts = 0 →
        swapped.snapshot.chromiumVersion = merged.snapshot.chromiumVersion ∧
        AlikeRoots merged.snapshot.roots swapped.snapshot.roots) := by
  obtain ⟨⟨format, browser, directory⟩, past, rfl⟩ := mergeBookmarks_ok.mp accepted
  refine ⟨_, mergeBookmarks_ok.mpr ⟨⟨format.symm, browser.symm, directory.symm⟩, ?_, rfl⟩, ?_, ?_⟩
  · intro b known
    obtain ⟨format', browser', directory'⟩ := past b known
    exact ⟨format'.trans format, browser'.trans browser, directory'.trans directory⟩
  · have each : ∀ key, conflictsNode (rootMap (baseRoots base) key) (rootMap remote.roots key)
        (rootMap loc.roots key) = conflictsNode (rootMap (baseRoots base) key)
        (rootMap loc.roots key) (rootMap remote.roots key) := by
      intro key
      exact conflictsNode_comm _ _ _
    dsimp only
    rw [conflictsRoots_eq, conflictsRoots_eq]
    simp only [each]
    exact ((rootKeys_perm (baseRoots base) remote.roots loc.roots).map _).sum_eq
  · intro calm
    exact ⟨max_comm _ _, mergedRoots_comm calm⟩

theorem merge_symmetric_up_to_conflicts_rename :
    mergeBookmarks (some (barSnapshot [bookmark "2" "Old"]))
      (barSnapshot [bookmark "2" "Local"]) (barSnapshot [bookmark "2" "Remote"]) =
      .ok ⟨barSnapshot [bookmark "2" "Remote"], 1⟩ ∧
    ∃ swapped, mergeBookmarks (some (barSnapshot [bookmark "2" "Old"]))
      (barSnapshot [bookmark "2" "Remote"]) (barSnapshot [bookmark "2" "Local"]) = .ok swapped ∧
      swapped.conflicts = 1 := by
  have accepted : mergeBookmarks (some (barSnapshot [bookmark "2" "Old"]))
      (barSnapshot [bookmark "2" "Local"]) (barSnapshot [bookmark "2" "Remote"]) =
      .ok ⟨barSnapshot [bookmark "2" "Remote"], 1⟩ := by decide +kernel
  obtain ⟨swapped, ran, same, _⟩ := merge_symmetric_up_to_conflicts accepted
  exact ⟨accepted, swapped, ran, same⟩

end HeliumSync
