import HeliumSync.Additions

/-! Node ids over a whole snapshot: which places can end up with one id after a merge. -/
namespace HeliumSync
open BookmarkNode (nodeId Distinct DistinctList)

namespace BookmarkNode

mutual
/-- The ids of a node and of everything below it. -/
def ids : BookmarkNode → List String
  | .folder id _ _ _ children => id :: idsIn children
  | .url id _ _ _ => [id]

def idsIn : List BookmarkNode → List String
  | [] => []
  | node :: nodes => ids node ++ idsIn nodes
end

theorem idsIn_eq (nodes : List BookmarkNode) : idsIn nodes = nodes.flatMap ids := by
  induction nodes with
  | nil => rfl
  | cons node nodes ih => rw [idsIn, ih, List.flatMap_cons]

theorem nodeId_mem_ids (node : BookmarkNode) : node.nodeId ∈ node.ids := by
  cases node <;> simp [ids]

end BookmarkNode

open BookmarkNode (ids idsIn)

/-- No two nodes of the whole tree share an id. -/
def UniqueIds (roots : List BookmarkRoot) : Prop := (roots.flatMap fun root => root.node.ids).Nodup

/-- The id of the node at a path, if there is one. -/
def idAt (node : Option BookmarkNode) (path : List String) : Option String :=
  (nodeAt node path).map nodeId

/-- A place in a snapshot: a root key and the ids on the way down from its node. -/
abbrev Place := String × List String

def idAtPlace (roots : List BookmarkRoot) (place : Place) : Option String :=
  idAt (rootMap roots place.1) place.2

/-- Within one tree an id is at one path only. -/
def UniquePaths (node : Option BookmarkNode) : Prop :=
  ∀ p q x, idAt node p = some x → idAt node q = some x → p = q

theorem idAt_folder (i n : String) (a m : Option String) (cs : List BookmarkNode) (id : String)
    (path : List String) :
    idAt (some (.folder i n a m cs)) (id :: path) = idAt (nodeMap cs id) path := rfl

theorem mem_ids_of_idAt {node : BookmarkNode} {path : List String} {x : String}
    (found : idAt (some node) path = some x) : x ∈ node.ids := by
  induction path generalizing node with
  | nil =>
      cases found
      exact node.nodeId_mem_ids
  | cons id path ih =>
      match node with
      | .url .. => cases found
      | .folder i n a m cs =>
          rw [idAt_folder] at found
          match child : nodeMap cs id with
          | none =>
              rw [child] at found
              cases path <;> cases found
          | some c =>
              rw [child] at found
              have below : x ∈ cs.flatMap ids :=
                List.mem_flatMap.mpr ⟨c, (nodeMap_mem child).1, ih found⟩
              rw [ids, BookmarkNode.idsIn_eq]
              exact List.mem_cons_of_mem i below

mutual
/-- In a tree with distinct siblings every id is found along a path. -/
theorem idAt_of_mem_ids : ∀ (node : BookmarkNode), node.Distinct → ∀ x ∈ node.ids,
    ∃ path, idAt (some node) path = some x
  | .url i _ _ _, _, x, member => by
      refine ⟨[], ?_⟩
      cases List.mem_singleton.mp member
      rfl
  | .folder i n a m cs, distinct, x, member => by
      rcases List.mem_cons.mp member with rfl | below
      · exact ⟨[], rfl⟩
      · obtain ⟨c, held, path, found⟩ := idAt_of_mem_idsIn cs distinct.2 x below
        refine ⟨c.nodeId :: path, ?_⟩
        rw [idAt_folder, (nodeMap_eq_some_iff distinct.1).mpr ⟨held, rfl⟩]
        exact found

theorem idAt_of_mem_idsIn : ∀ (nodes : List BookmarkNode), DistinctList nodes →
    ∀ x ∈ idsIn nodes, ∃ c ∈ nodes, ∃ path, idAt (some c) path = some x
  | [], _, _, member => by cases member
  | node :: nodes, distinct, x, member => by
      rcases List.mem_append.mp member with here | later
      · obtain ⟨path, found⟩ := idAt_of_mem_ids node distinct.1 x here
        exact ⟨node, List.mem_cons_self, path, found⟩
      · obtain ⟨c, held, path, found⟩ := idAt_of_mem_idsIn nodes distinct.2 x later
        exact ⟨c, List.mem_cons_of_mem node held, path, found⟩
end

theorem map_nodeId_sublist (nodes : List BookmarkNode) :
    (nodes.map nodeId).Sublist (idsIn nodes) := by
  induction nodes with
  | nil => exact List.Sublist.slnil
  | cons node nodes ih =>
      have here : [node.nodeId].Sublist node.ids := List.singleton_sublist.mpr node.nodeId_mem_ids
      exact here.append ih

mutual
theorem distinct_of_ids : ∀ node : BookmarkNode, node.ids.Nodup → node.Distinct
  | .url .., _ => trivial
  | .folder _ _ _ _ cs, nodup => by
      have below := (List.nodup_cons.mp nodup).2
      exact ⟨below.sublist (map_nodeId_sublist cs), distinctList_of_ids cs below⟩

theorem distinctList_of_ids : ∀ nodes : List BookmarkNode, (idsIn nodes).Nodup → DistinctList nodes
  | [], _ => trivial
  | node :: nodes, nodup =>
      ⟨distinct_of_ids node nodup.of_append_left, distinctList_of_ids nodes nodup.of_append_right⟩
end

theorem UniquePaths.of_ids {node : BookmarkNode} (nodup : node.ids.Nodup) :
    UniquePaths (some node) := by
  intro p q x
  induction p generalizing node q with
  | nil =>
      intro here there
      cases here
      match q, node with
      | [], _ => rfl
      | id :: q, .url .. => cases there
      | id :: q, .folder i n a m cs =>
          rw [idAt_folder] at there
          match child : nodeMap cs id with
          | none => rw [child] at there; cases q <;> cases there
          | some c =>
              rw [child] at there
              have below : i ∈ idsIn cs := by
                rw [BookmarkNode.idsIn_eq]
                exact List.mem_flatMap.mpr ⟨c, (nodeMap_mem child).1, mem_ids_of_idAt there⟩
              exact absurd below (List.nodup_cons.mp nodup).1
  | cons id p ih =>
      intro here there
      match node with
      | .url .. => cases here
      | .folder i n a m cs =>
          obtain ⟨fresh, below⟩ := List.nodup_cons.mp nodup
          rw [BookmarkNode.idsIn_eq] at fresh below
          rw [idAt_folder] at here
          match child : nodeMap cs id with
          | none => rw [child] at here; cases p <;> cases here
          | some c =>
              rw [child] at here
              obtain ⟨held, rfl⟩ := nodeMap_mem child
              match q with
              | [] =>
                  cases there
                  exact absurd (List.mem_flatMap.mpr ⟨c, held, mem_ids_of_idAt here⟩) fresh
              | id' :: q =>
                  rw [idAt_folder] at there
                  match child' : nodeMap cs id' with
                  | none => rw [child'] at there; cases q <;> cases there
                  | some c' =>
                      rw [child'] at there
                      obtain ⟨held', rfl⟩ := nodeMap_mem child'
                      by_cases same : c = c'
                      · subst same
                        rw [ih ((List.nodup_flatMap.mp below).1 c held) q here there]
                      · exact absurd (mem_ids_of_idAt there)
                          (Keyed.disjoint_of_nodup_flatMap below held held' same
                            (mem_ids_of_idAt here))

mutual
/-- A tree with distinct siblings in which every id has one path has no id twice. -/
theorem ids_nodup_of_paths : ∀ node : BookmarkNode, node.Distinct → UniquePaths (some node) →
    node.ids.Nodup
  | .url .., _, _ => List.nodup_singleton _
  | .folder i n a m cs, distinct, unique => by
      have lookup {c : BookmarkNode} (held : c ∈ cs) : nodeMap cs c.nodeId = some c :=
        (nodeMap_eq_some_iff distinct.1).mpr ⟨held, rfl⟩
      refine List.nodup_cons.mpr ⟨?_, ?_⟩
      · intro below
        obtain ⟨c, held, path, found⟩ := idAt_of_mem_idsIn cs distinct.2 i below
        have twice := unique [] (c.nodeId :: path) i rfl (by
          rw [idAt_folder, lookup held]
          exact found)
        cases twice
      · apply idsIn_nodup_of_paths cs distinct.1 distinct.2
        intro c held c' held' p q x here there
        have same := unique (c.nodeId :: p) (c'.nodeId :: q) x
          (by rw [idAt_folder, lookup held]; exact here)
          (by rw [idAt_folder, lookup held']; exact there)
        exact List.cons_eq_cons.mp same

theorem idsIn_nodup_of_paths : ∀ nodes : List BookmarkNode, (nodes.map nodeId).Nodup →
    DistinctList nodes →
    (∀ c ∈ nodes, ∀ c' ∈ nodes, ∀ p q x, idAt (some c) p = some x → idAt (some c') q = some x →
      c.nodeId = c'.nodeId ∧ p = q) → (idsIn nodes).Nodup
  | [], _, _, _ => List.nodup_nil
  | node :: nodes, keys, distinct, unique => by
      obtain ⟨fresh, keys⟩ := List.nodup_cons.mp keys
      refine List.nodup_append.mpr ⟨?_, ?_, ?_⟩
      · apply ids_nodup_of_paths node distinct.1
        intro p q x here there
        exact (unique node List.mem_cons_self node List.mem_cons_self p q x here there).2
      · apply idsIn_nodup_of_paths nodes keys distinct.2
        intro c held c' held'
        exact unique c (List.mem_cons_of_mem node held) c' (List.mem_cons_of_mem node held')
      · rintro x here y there rfl
        obtain ⟨p, found⟩ := idAt_of_mem_ids node distinct.1 x here
        obtain ⟨c, held, q, found'⟩ := idAt_of_mem_idsIn nodes distinct.2 x there
        obtain ⟨same, _⟩ := unique node List.mem_cons_self c (List.mem_cons_of_mem node held)
          p q x found found'
        exact fresh (List.mem_map.mpr ⟨c, held, same.symm⟩)
end

/-- Where ids are unique, an id is at one place only. -/
theorem UniqueIds.place {roots : List BookmarkRoot} (unique : UniqueIds roots) {p q : Place}
    {x : String} (here : idAtPlace roots p = some x) (there : idAtPlace roots q = some x) :
    p = q := by
  obtain ⟨key, p⟩ := p
  obtain ⟨key', q⟩ := q
  have within {key : String} {path : List String} (found : idAtPlace roots (key, path) = some x) :
      ∃ node, rootMap roots key = some node ∧ ⟨key, node⟩ ∈ roots ∧ x ∈ node.ids ∧
        idAt (some node) path = some x := by
    rw [idAtPlace] at found
    match root : rootMap roots key with
    | none =>
        rw [root] at found
        cases path <;> cases found
    | some node =>
        rw [root] at found
        exact ⟨node, rfl, rootMap_mem root, mem_ids_of_idAt found, found⟩
  obtain ⟨node, root, held, member, found⟩ := within here
  obtain ⟨node', root', held', member', found'⟩ := within there
  by_cases same : key = key'
  · subst same
    rw [root] at root'
    cases root'
    have nodup : node.ids.Nodup := (List.nodup_flatMap.mp unique).1 ⟨key, node⟩ held
    rw [UniquePaths.of_ids nodup p q x found found']
  · have other : (⟨key, node⟩ : BookmarkRoot) ≠ ⟨key', node'⟩ := by
      intro h
      exact same (congrArg BookmarkRoot.key h)
    exact absurd member' (Keyed.disjoint_of_nodup_flatMap unique held held' other member)

theorem UniqueIds.of_places {roots : List BookmarkRoot}
    (keys : (roots.map BookmarkRoot.key).Nodup) (distinct : ∀ root ∈ roots, root.node.Distinct)
    (unique : ∀ p q x, idAtPlace roots p = some x → idAtPlace roots q = some x → p = q) :
    UniqueIds roots := by
  have lookup {root : BookmarkRoot} (held : root ∈ roots) :
      rootMap roots root.key = some root.node := by
    rw [rootMap, Keyed.get_of_mem keys held, Option.map_some]
  apply Keyed.nodup_flatMap_of_apart keys
  · intro root held
    apply ids_nodup_of_paths root.node (distinct root held)
    intro p q x here there
    have same := unique (root.key, p) (root.key, q) x
      (by rw [idAtPlace, lookup held]; exact here) (by rw [idAtPlace, lookup held]; exact there)
    exact (Prod.mk.inj same).2
  · intro root held root' held' other x here there
    obtain ⟨p, found⟩ := idAt_of_mem_ids root.node (distinct root held) x here
    obtain ⟨q, found'⟩ := idAt_of_mem_ids root'.node (distinct root' held') x there
    have same := unique (root.key, p) (root'.key, q) x
      (by rw [idAtPlace, lookup held]; exact found) (by rw [idAtPlace, lookup held']; exact found')
    exact other (Prod.mk.inj same).1

theorem UniqueIds.distinct {roots : List BookmarkRoot} (unique : UniqueIds roots) :
    ∀ root ∈ roots, root.node.Distinct := by
  intro root held
  exact distinct_of_ids root.node ((List.nodup_flatMap.mp unique).1 root held)

/-- The side that the three-way rule takes whole. Two nodes of one kind and id on which both sides
moved apart are merged field by field instead. -/
def wholeSide (base loc remote : Option BookmarkNode) : Option (Option BookmarkNode) :=
  if loc = remote then some loc
  else if loc = base then some remote
  else if remote = base then some loc
  else match loc, remote with
    | some l, some r => if SameKind l r then none else some (some r)
    | none, remote => some remote
    | some l, none => some (some l)

/-- The children of the base folder, when the base still is the local side's folder. -/
def pastChildren (base : Option BookmarkNode) : Option BookmarkNode → List BookmarkNode
  | some l => ((baseFolder base l.nodeId).map (·.2.2.2)).getD []
  | none => []

/-- The id that the three-way rule leaves at a path, looking at the nodes along it only. -/
def ruleId : List String → (base loc remote : Option BookmarkNode) → Option String
  | [], base, loc, remote =>
      match wholeSide base loc remote with
      | some node => idAt node []
      | none => idAt loc []
  | id :: path, base, loc, remote =>
      match wholeSide base loc remote with
      | some node => idAt node (id :: path)
      | none => ruleId path (nodeMap (pastChildren base loc) id) (nodeMap (children loc) id)
          (nodeMap (children remote) id)

theorem wholeSide_some {base loc remote node : Option BookmarkNode}
    (whole : wholeSide base loc remote = some node) : mergedNode base loc remote = node := by
  rw [mergedNode_eq]
  unfold wholeSide at whole
  by_cases same : loc = remote
  · rw [if_pos same] at whole
    cases whole
    rw [← same, ThreeWay.reconcile_self]
  by_cases left : loc = base
  · rw [if_neg same, if_pos left] at whole
    cases whole
    exact ThreeWay.reconcile_of_local (congrArg some left) _ _
  by_cases right : remote = base
  · rw [if_neg same, if_neg left, if_pos right] at whole
    cases whole
    exact ThreeWay.reconcile_of_remote (congrArg some right) _ _
  rw [if_neg same, if_neg left, if_neg right] at whole
  rw [ThreeWay.reconcile_clash
    ⟨same, fun h => left (Option.some.inj h), fun h => right (Option.some.inj h)⟩]
  match loc, remote with
  | none, remote => exact Option.some.inj whole
  | some l, none => exact Option.some.inj whole
  | some l, some r =>
      by_cases kind : SameKind l r
      · simp only [if_pos kind] at whole
        cases whole
      · simp only [if_neg kind] at whole
        rw [clashNode, mergedPresent_of_differ kind]
        exact Option.some.inj whole

theorem wholeSide_none {base loc remote : Option BookmarkNode}
    (open_ : wholeSide base loc remote = none) : ∃ l r, loc = some l ∧ remote = some r ∧
      SameKind l r ∧ mergedNode base loc remote = some (mergedPresent base l r) := by
  unfold wholeSide at open_
  by_cases same : loc = remote
  · rw [if_pos same] at open_
    cases open_
  by_cases left : loc = base
  · rw [if_neg same, if_pos left] at open_
    cases open_
  by_cases right : remote = base
  · rw [if_neg same, if_neg left, if_pos right] at open_
    cases open_
  rw [if_neg same, if_neg left, if_neg right] at open_
  have clashes : ThreeWay.Clashes (some base) loc remote :=
    ⟨same, fun h => left (Option.some.inj h), fun h => right (Option.some.inj h)⟩
  match loc, remote with
  | none, remote => cases open_
  | some l, none => cases open_
  | some l, some r =>
      by_cases kind : SameKind l r
      · refine ⟨l, r, rfl, rfl, kind, ?_⟩
        rw [mergedNode_eq, ThreeWay.reconcile_clash clashes]
        rfl
      · simp only [if_neg kind] at open_
        cases open_

/-- The merge has at every path the id that the rule leaves there. -/
theorem idAt_mergedNode (path : List String) (base loc remote : Option BookmarkNode) :
    idAt (mergedNode base loc remote) path = ruleId path base loc remote := by
  induction path generalizing base loc remote with
  | nil =>
      match decided : wholeSide base loc remote with
      | some node => simp only [ruleId, decided, wholeSide_some decided]
      | none =>
          obtain ⟨l, r, rfl, rfl, kind, value⟩ := wholeSide_none decided
          simp only [ruleId, decided, value]
          exact congrArg some (mergedPresent_sameKind kind).nodeId_eq.symm
  | cons id path ih =>
      match decided : wholeSide base loc remote with
      | some node => simp only [ruleId, decided, wholeSide_some decided]
      | none =>
          obtain ⟨l, r, rfl, rfl, kind, value⟩ := wholeSide_none decided
          simp only [ruleId, decided, value]
          match l, r with
          | .folder i n a m cs, .folder i' n' a' m' cs' =>
              cases kind
              rw [mergedPresent_folder, idAt_folder, nodeMap_mergedChildren]
              exact ih _ _ _
          | .url i n u a, .url i' n' u' a' =>
              cases kind
              rw [mergedPresent_url]
              have below := ih (nodeMap (pastChildren base (some (.url i n u a))) id) none none
              rw [mergedNode_self] at below
              have nothing : idAt none path = none := by cases path <;> rfl
              exact nothing.symm.trans below

/-- What the rule leaves at a path is there on one of the sides. -/
theorem ruleId_of_side {path : List String} {base loc remote : Option BookmarkNode} {x : String}
    (left : ruleId path base loc remote = some x) :
    idAt loc path = some x ∨ idAt remote path = some x := by
  have taken {base loc remote node : Option BookmarkNode}
      (whole : wholeSide base loc remote = some node) : node = loc ∨ node = remote := by
    unfold wholeSide at whole
    split_ifs at whole
    · exact .inl (Option.some.inj whole).symm
    · exact .inr (Option.some.inj whole).symm
    · exact .inl (Option.some.inj whole).symm
    · match loc, remote with
      | none, remote => exact .inr (Option.some.inj whole).symm
      | some l, none => exact .inl (Option.some.inj whole).symm
      | some l, some r =>
          by_cases kind : SameKind l r
          · simp only [if_pos kind] at whole
            cases whole
          · simp only [if_neg kind] at whole
            exact .inr (Option.some.inj whole).symm
  induction path generalizing base loc remote with
  | nil =>
      match decided : wholeSide base loc remote with
      | some node =>
          simp only [ruleId, decided] at left
          rcases taken decided with rfl | rfl
          · exact .inl left
          · exact .inr left
      | none =>
          simp only [ruleId, decided] at left
          exact .inl left
  | cons id path ih =>
      match decided : wholeSide base loc remote with
      | some node =>
          simp only [ruleId, decided] at left
          rcases taken decided with rfl | rfl
          · exact .inl left
          · exact .inr left
      | none =>
          simp only [ruleId, decided] at left
          obtain ⟨l, r, rfl, rfl, _, _⟩ := wholeSide_none decided
          have nowhere {i n u : String} {a : Option String}
              (found : idAt (nodeMap (children (some (.url i n u a))) id) path = some x) : False := by
            cases path <;> cases found
          rcases ih left with here | there
          · match l with
            | .folder .. => exact .inl here
            | .url .. => exact (nowhere here).elim
          · match r with
            | .folder .. => exact .inr there
            | .url .. => exact (nowhere there).elim

/-- The id that the rule leaves at a place of three snapshots. -/
def ruleIdAt (base loc remote : List BookmarkRoot) (place : Place) : Option String :=
  ruleId place.2 (rootMap base place.1) (rootMap loc place.1) (rootMap remote place.1)

theorem idAtPlace_mergedRoots (base loc remote : List BookmarkRoot) (place : Place) :
    idAtPlace (mergedRoots base loc remote) place = ruleIdAt base loc remote place := by
  rw [idAtPlace, rootMap_mergedRoots, idAt_mergedNode]
  rfl

/-- A merge keeps ids unique over the whole tree, unless the rule keeps one id at two places:
where the local side has it, and where the remote side has it. -/
theorem merged_ids_unique_iff {base : Option BookmarkSnapshotV1} {loc remote : BookmarkSnapshotV1}
    {merged : BookmarkMergeResult} (accepted : mergeBookmarks base loc remote = .ok merged)
    (left : UniqueIds loc.roots) (right : UniqueIds remote.roots) :
    UniqueIds merged.snapshot.roots ↔
      ∀ p q x, p ≠ q → idAtPlace loc.roots p = some x → idAtPlace remote.roots q = some x →
        ¬ (ruleIdAt (baseRoots base) loc.roots remote.roots p = some x ∧
          ruleIdAt (baseRoots base) loc.roots remote.roots q = some x) := by
  obtain ⟨_, _, rfl⟩ := mergeBookmarks_ok.mp accepted
  dsimp only
  constructor
  · rintro unique p q x other _ _ ⟨here, there⟩
    rw [← idAtPlace_mergedRoots] at here there
    exact other (unique.place here there)
  · intro apart
    apply UniqueIds.of_places (mergedRoots_nodup _ _ _)
      (mergedRoots_distinct left.distinct right.distinct)
    intro p q x here there
    rw [idAtPlace_mergedRoots] at here there
    by_contra other
    rcases ruleId_of_side here with locP | remoteP
    · rcases ruleId_of_side there with locQ | remoteQ
      · exact other (left.place locP locQ)
      · exact apart p q x other locP remoteQ ⟨here, there⟩
    · rcases ruleId_of_side there with locQ | remoteQ
      · exact apart q p x (Ne.symm other) locQ remoteP ⟨there, here⟩
      · exact other (right.place remoteP remoteQ)

/-- Two folders of the bookmark bar, the first with these nodes and the second with those. -/
def twoFolders (first second : List BookmarkNode) : BookmarkSnapshotV1 :=
  barSnapshot [.folder "2" "First" none none first, .folder "3" "Second" none none second]

/-- Both copies stay where one device moves a bookmark to another folder and the other one renames it.
Both bookmarks stay, too, where the devices add them under one id in different folders. -/
theorem moved_and_edited_twice :
    (UniqueIds (twoFolders [bookmark "9" "Old"] []).roots ∧
      UniqueIds (twoFolders [] [bookmark "9" "Old"]).roots ∧
      UniqueIds (twoFolders [bookmark "9" "New"] []).roots ∧
      ∃ merged, mergeBookmarks (some (twoFolders [bookmark "9" "Old"] []))
          (twoFolders [] [bookmark "9" "Old"]) (twoFolders [bookmark "9" "New"] []) = .ok merged ∧
        ¬ UniqueIds merged.snapshot.roots) ∧
    (UniqueIds (twoFolders [] []).roots ∧ UniqueIds (twoFolders [bookmark "9" "Mine"] []).roots ∧
      UniqueIds (twoFolders [] [bookmark "9" "Theirs"]).roots ∧
      ∃ merged, mergeBookmarks (some (twoFolders [] [])) (twoFolders [bookmark "9" "Mine"] [])
          (twoFolders [] [bookmark "9" "Theirs"]) = .ok merged ∧
        ¬ UniqueIds merged.snapshot.roots) := by
  constructor
  · refine ⟨?_, ?_, ?_, ⟨twoFolders [bookmark "9" "New"] [bookmark "9" "Old"], 1⟩,
      by decide +kernel, ?_⟩ <;>
      simp [UniqueIds, twoFolders, barSnapshot, bookmark, ids, idsIn]
  · refine ⟨?_, ?_, ?_, ⟨twoFolders [bookmark "9" "Mine"] [bookmark "9" "Theirs"], 0⟩,
      by decide +kernel, ?_⟩ <;>
      simp [UniqueIds, twoFolders, barSnapshot, bookmark, ids, idsIn]

/-- A bookmark that only one device moves is kept at its new place alone. -/
theorem merged_ids_unique_iff_move : UniqueIds (twoFolders [] [bookmark "9" "Old"]).roots ∧
    ∀ p q x, p ≠ q → idAtPlace (twoFolders [] [bookmark "9" "Old"]).roots p = some x →
      idAtPlace (twoFolders [bookmark "9" "Old"] []).roots q = some x →
      ¬ (ruleIdAt (twoFolders [bookmark "9" "Old"] []).roots
          (twoFolders [] [bookmark "9" "Old"]).roots (twoFolders [bookmark "9" "Old"] []).roots p =
            some x ∧
        ruleIdAt (twoFolders [bookmark "9" "Old"] []).roots
          (twoFolders [] [bookmark "9" "Old"]).roots (twoFolders [bookmark "9" "Old"] []).roots q =
            some x) := by
  have law := @merged_ids_unique_iff (some (twoFolders [bookmark "9" "Old"] []))
    (twoFolders [] [bookmark "9" "Old"]) (twoFolders [bookmark "9" "Old"] [])
    ⟨twoFolders [] [bookmark "9" "Old"], 0⟩ (by decide +kernel)
    (by simp [UniqueIds, twoFolders, barSnapshot, bookmark, ids, idsIn])
    (by simp [UniqueIds, twoFolders, barSnapshot, bookmark, ids, idsIn])
  have kept : UniqueIds (twoFolders [] [bookmark "9" "Old"]).roots := by
    simp [UniqueIds, twoFolders, barSnapshot, bookmark, ids, idsIn]
  exact ⟨kept, law.mp kept⟩

end HeliumSync
