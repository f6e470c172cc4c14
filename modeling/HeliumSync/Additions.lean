import HeliumSync.MergeLaw

/-! Bookmarks that one side added to a folder, and what the merge keeps of them. -/
namespace HeliumSync
open BookmarkNode (nodeId Distinct DistinctList)
open ThreeWay (reconcile)

def children : Option BookmarkNode → List BookmarkNode
  | some (.folder _ _ _ _ nodes) => nodes
  | _ => []

/-- The name and the URL of a URL bookmark. -/
def urlFields : Option BookmarkNode → Option (String × String)
  | some (.url _ name url _) => some (name, url)
  | _ => none

/-- Where both sides moved apart, two URLs of one id are ruled field by field and the
remote node stands otherwise, unless the remote side has none. -/
def clashUrl (base : Option BookmarkNode) : Option BookmarkNode → Option BookmarkNode →
    Option (String × String)
  | some (.url i n u _), some (.url i' n' u' _) =>
      if i = i' then
        some (reconcile ((baseUrl base i).map (·.1)) n n' n',
          reconcile ((baseUrl base i).map (·.2.1)) u u' u')
      else some (n', u')
  | loc, none => urlFields loc
  | _, remote => urlFields remote

/-- The name and the URL that the three-way rule leaves of three nodes of one id. -/
def ruleUrl (base loc remote : Option BookmarkNode) : Option (String × String) :=
  if loc = remote then urlFields loc
  else if loc = base then urlFields remote
  else if remote = base then urlFields loc
  else clashUrl base loc remote

theorem urlFields_clashNode (base loc remote : Option BookmarkNode) :
    urlFields (clashNode base loc remote) = clashUrl base loc remote := by
  have differ {l r : BookmarkNode} (h : ¬ SameKind l r) :
      urlFields (clashNode base (some l) (some r)) = urlFields (some r) := by
    rw [clashNode, mergedPresent_of_differ h]
  match loc, remote with
  | none, none => rfl
  | none, some (.folder ..) => rfl
  | none, some (.url ..) => rfl
  | some (.folder ..), none => rfl
  | some (.url ..), none => rfl
  | some (.folder i n a m cs), some (.folder i' n' a' m' cs') =>
      by_cases same : i = i'
      · subst same
        rw [clashNode, mergedPresent_folder]
        rfl
      · have other : ¬ SameKind (.folder i n a m cs) (.folder i' n' a' m' cs') := same
        exact differ other
  | some (.folder ..), some (.url ..) => exact differ id
  | some (.url ..), some (.folder ..) => exact differ id
  | some (.url i n u a), some (.url i' n' u' a') =>
      by_cases same : i = i'
      · subst same
        rw [clashNode, mergedPresent_url, clashUrl, if_pos rfl]
        rfl
      · have other : ¬ SameKind (.url i n u a) (.url i' n' u' a') := same
        rw [differ other, clashUrl, if_neg same]
        rfl

theorem urlFields_mergedNode (base loc remote : Option BookmarkNode) :
    urlFields (mergedNode base loc remote) = ruleUrl base loc remote := by
  rw [mergedNode_eq, ruleUrl, reconcile]
  simp only [Option.some.injEq]
  split_ifs
  · rfl
  · rfl
  · rfl
  · exact urlFields_clashNode base loc remote

/-- The list holds a URL bookmark of this id, name and URL. -/
def HasUrl (nodes : List BookmarkNode) (id name url : String) : Prop :=
  ∃ dateAdded, .url id name url dateAdded ∈ nodes

/-- Every URL bookmark that either side added to the folder, its id not being among the base's
children, is in the merged folder under its id, with its name and URL. -/
def AdditionsKept (base loc remote merged : List BookmarkNode) : Prop :=
  ∀ id name url, id ∉ base.map nodeId → HasUrl loc id name url ∨ HasUrl remote id name url →
    HasUrl merged id name url

/-- Where the remote side has a child under the id of a local addition, it is the same addition. -/
def AdditionsAgree (base loc remote : List BookmarkNode) : Prop :=
  ∀ id name url, id ∉ base.map nodeId → HasUrl loc id name url → id ∈ remote.map nodeId →
    HasUrl remote id name url

/-- A folder that base, local and remote all have at a path, under one id. -/
structure CommonFolder (base loc remote : Option BookmarkNode) (ids : List String) : Prop where
  shared : SharedPath loc remote ids
  folders : ∃ id, (∃ n a m cs, baseAt base loc ids = some (.folder id n a m cs)) ∧
    (∃ n a m cs, nodeAt loc ids = some (.folder id n a m cs)) ∧
    (∃ n a m cs, nodeAt remote ids = some (.folder id n a m cs))

theorem hasUrl_iff {nodes : List BookmarkNode} (distinct : (nodes.map nodeId).Nodup)
    (id name url : String) :
    HasUrl nodes id name url ↔ urlFields (nodeMap nodes id) = some (name, url) := by
  constructor
  · rintro ⟨dateAdded, member⟩
    have found : nodeMap nodes id = some (.url id name url dateAdded) :=
      (nodeMap_eq_some_iff distinct).mpr ⟨member, rfl⟩
    rw [found]
    rfl
  · intro found
    match node : nodeMap nodes id with
    | some (.url i n u a) =>
        obtain ⟨member, rfl⟩ := nodeMap_mem node
        rw [node] at found
        cases found
        exact ⟨a, member⟩
    | some (.folder ..) => rw [node] at found; cases found
    | none => rw [node] at found; cases found

theorem clashUrl_remote (loc : Option BookmarkNode) (id name url : String) (a : Option String) :
    clashUrl none loc (some (.url id name url a)) = some (name, url) := by
  match loc with
  | none => rfl
  | some (.folder ..) => rfl
  | some (.url i n u b) =>
      simp only [clashUrl, baseUrl, Option.map_none, ThreeWay.reconcile_none, ite_self]

/-- Without a base node, a collision keeps the remote name and URL. -/
theorem ruleUrl_remote (loc : Option BookmarkNode) (id name url : String) (a : Option String) :
    ruleUrl none loc (some (.url id name url a)) = some (name, url) := by
  rw [ruleUrl, clashUrl_remote, if_neg (Option.some_ne_none _)]
  split_ifs with same
  · rw [same]
    rfl
  · rfl
  · rfl

theorem ruleUrl_local (remote : Option BookmarkNode) (id name url : String) (a : Option String) :
    ruleUrl none (some (.url id name url a)) remote = some (name, url) ↔
      ∀ other, remote = some other → urlFields (some other) = some (name, url) := by
  match remote with
  | none => simp [ruleUrl, urlFields]
  | some (.folder ..) => simp [ruleUrl, clashUrl, urlFields]
  | some (.url i n u b) =>
      rw [ruleUrl_remote]
      simp [urlFields]

/-- The merged folder holds under each child id what the rule leaves of the three folders. -/
theorem nodeMap_children_mergedNode {base loc remote : Option BookmarkNode} {ids : List String}
    (common : CommonFolder base loc remote ids) (id : String) :
    nodeMap (children (nodeAt (mergedNode base loc remote) ids)) id =
      mergedNode (nodeMap (children (baseAt base loc ids)) id)
        (nodeMap (children (nodeAt loc ids)) id) (nodeMap (children (nodeAt remote ids)) id) := by
  obtain ⟨shared, i, ⟨nb, ab, mb, bs, atBase⟩, ⟨nl, al, ml, ls, atLoc⟩, ⟨nr, ar, mr, rs, atRemote⟩⟩ :=
    common
  rw [nodeAt_mergedNode base shared, atBase, atLoc, atRemote]
  have below := nodeAt_mergedNode (some (.folder i nb ab mb bs))
    (show SharedPath (some (.folder i nl al ml ls)) (some (.folder i nr ar mr rs)) [id] from
      ⟨rfl, trivial⟩)
  have folder : ∃ n a m cs, mergedNode (some (.folder i nb ab mb bs)) (some (.folder i nl al ml ls))
      (some (.folder i nr ar mr rs)) = some (.folder i n a m cs) := by
    rw [mergedNode_eq]
    rcases ThreeWay.reconcile_cases (some (some (.folder i nb ab mb bs)))
        (some (.folder i nl al ml ls)) (some (.folder i nr ar mr rs)) (clashNode _ _ _) with
      ⟨_, value⟩ | ⟨_, _, value⟩ | ⟨_, _, value⟩ | ⟨_, value⟩ <;> rw [value]
    · exact ⟨_, _, _, _, rfl⟩
    · exact ⟨_, _, _, _, rfl⟩
    · exact ⟨_, _, _, _, rfl⟩
    · exact ⟨_, _, _, _, by rw [clashNode, mergedPresent_folder]⟩
  obtain ⟨n, a, m, cs, value⟩ := folder
  rw [value] at below ⊢
  simpa [nodeAt, baseAt, children] using below

theorem nodeAt_distinct {node : Option BookmarkNode} (distinct : ∀ x, node = some x → x.Distinct)
    (ids : List String) : ∀ x, nodeAt node ids = some x → x.Distinct := by
  induction ids generalizing node with
  | nil => exact distinct
  | cons id ids ih =>
      match node with
      | none => nofun
      | some (.url ..) => nofun
      | some (.folder ..) => exact ih fun _ => nodeMap_distinct (distinct _ rfl).2

theorem children_nodup {node : Option BookmarkNode} (distinct : ∀ x, node = some x → x.Distinct) :
    ((children node).map nodeId).Nodup := by
  match node with
  | none => exact List.nodup_nil
  | some (.url ..) => exact List.nodup_nil
  | some (.folder ..) => exact (distinct _ rfl).1

theorem rootMap_distinct {roots : List BookmarkRoot} (distinct : ∀ r ∈ roots, r.node.Distinct)
    (key : String) : ∀ x, rootMap roots key = some x → x.Distinct :=
  fun _ found => distinct _ (rootMap_mem found)

theorem additionsKept_of_rule {base loc remote merged : List BookmarkNode}
    (locDistinct : (loc.map nodeId).Nodup) (remoteDistinct : (remote.map nodeId).Nodup)
    (mergedDistinct : (merged.map nodeId).Nodup)
    (rule : ∀ id, nodeMap merged id =
      mergedNode (nodeMap base id) (nodeMap loc id) (nodeMap remote id)) :
    AdditionsKept base loc remote merged ↔ AdditionsAgree base loc remote := by
  have merges {id : String} (new : id ∉ base.map nodeId) (name url : String) :
      HasUrl merged id name url ↔
        ruleUrl none (nodeMap loc id) (nodeMap remote id) = some (name, url) := by
    rw [hasUrl_iff mergedDistinct, rule, urlFields_mergedNode, nodeMap_eq_none_iff.mpr new]
  -- a local addition stays if and only if the remote child of its id, if any, is its like
  have stays {id name url : String} (new : id ∉ base.map nodeId) (added : HasUrl loc id name url) :
      HasUrl merged id name url ↔ (id ∈ remote.map nodeId → HasUrl remote id name url) := by
    obtain ⟨a, member⟩ := added
    have here : nodeMap loc id = some (.url id name url a) :=
      (nodeMap_eq_some_iff locDistinct).mpr ⟨member, rfl⟩
    rw [merges new, here, ruleUrl_local, hasUrl_iff remoteDistinct]
    cases there : nodeMap remote id with
    | none => simp [nodeMap_eq_none_iff.mp there]
    | some other =>
        have used : id ∈ remote.map nodeId := by
          obtain ⟨child, rfl⟩ := nodeMap_mem there
          exact List.mem_map_of_mem child
        simp [used]
  constructor
  · intro kept id name url new added
    exact (stays new added).mp (kept id name url new (.inl added))
  · intro agree id name url new added
    rcases added with added | ⟨a, member⟩
    · exact (stays new added).mpr (agree id name url new added)
    · have there : nodeMap remote id = some (.url id name url a) :=
        (nodeMap_eq_some_iff remoteDistinct).mpr ⟨member, rfl⟩
      rw [merges new, there]
      exact ruleUrl_remote ..

/-- The bookmarks that either side added to a common folder all stay if and only if the two sides
never gave one id to different children there. -/
theorem additions_kept_iff {base loc remote : BookmarkSnapshotV1} {merged : BookmarkMergeResult}
    (accepted : mergeBookmarks (some base) loc remote = .ok merged)
    (locDistinct : ∀ root ∈ loc.roots, root.node.Distinct)
    (remoteDistinct : ∀ root ∈ remote.roots, root.node.Distinct) (key : String)
    (ids : List String)
    (common : CommonFolder (rootMap base.roots key) (rootMap loc.roots key)
      (rootMap remote.roots key) ids) :
    AdditionsKept (children (baseAt (rootMap base.roots key) (rootMap loc.roots key) ids))
        (children (nodeAt (rootMap loc.roots key) ids))
        (children (nodeAt (rootMap remote.roots key) ids))
        (children (nodeAt (rootMap merged.snapshot.roots key) ids)) ↔
      AdditionsAgree (children (baseAt (rootMap base.roots key) (rootMap loc.roots key) ids))
        (children (nodeAt (rootMap loc.roots key) ids))
        (children (nodeAt (rootMap remote.roots key) ids)) := by
  obtain ⟨_, _, rfl⟩ := mergeBookmarks_ok.mp accepted
  have left := rootMap_distinct locDistinct key
  have right := rootMap_distinct remoteDistinct key
  simp only [rootMap_mergedRoots, baseRoots, Option.map_some, Option.getD_some]
  refine additionsKept_of_rule (children_nodup (nodeAt_distinct left ids))
    (children_nodup (nodeAt_distinct right ids)) (children_nodup (nodeAt_distinct ?_ ids))
    (nodeMap_children_mergedNode common)
  exact mergedNode_distinct _ left right

/-- Both devices add one bookmark and number it "3": the local one is gone. -/
theorem independent_addition_lost :
    ∃ merged, mergeBookmarks (some (barSnapshot [bookmark "2" "base"]))
        (barSnapshot [bookmark "2" "base", .url "3" "mine" "https://mine.test/" none])
        (barSnapshot [bookmark "2" "base", .url "3" "theirs" "https://theirs.test/" none]) =
          .ok merged ∧
      ¬ AdditionsKept [bookmark "2" "base"]
        [bookmark "2" "base", .url "3" "mine" "https://mine.test/" none]
        [bookmark "2" "base", .url "3" "theirs" "https://theirs.test/" none]
        (children (nodeAt (rootMap merged.snapshot.roots "bookmark_bar") [])) := by
  refine ⟨⟨barSnapshot [bookmark "2" "base", .url "3" "theirs" "https://theirs.test/" none], 2⟩,
    by decide +kernel, fun kept => ?_⟩
  obtain ⟨a, member⟩ := kept "3" "mine" "https://mine.test/" (by decide) (.inl ⟨none, by decide⟩)
  simp [nodeAt, rootMap, barSnapshot, Keyed.get, children, bookmark] at member

theorem additions_kept_iff_distinct_ids :
    AdditionsKept [bookmark "2" "base"] [bookmark "2" "base", bookmark "3" "mine"]
      [bookmark "2" "base", bookmark "4" "theirs"]
      [bookmark "2" "base", bookmark "4" "theirs", bookmark "3" "mine"] := by
  have law := @additions_kept_iff (barSnapshot [bookmark "2" "base"])
    (barSnapshot [bookmark "2" "base", bookmark "3" "mine"])
    (barSnapshot [bookmark "2" "base", bookmark "4" "theirs"])
    ⟨barSnapshot [bookmark "2" "base", bookmark "4" "theirs", bookmark "3" "mine"], 0⟩
    (by decide +kernel) (by simp [barSnapshot, Distinct, DistinctList, bookmark])
    (by simp [barSnapshot, Distinct, DistinctList, bookmark]) "bookmark_bar" []
    ⟨trivial, "1", ⟨_, _, _, _, rfl⟩, ⟨_, _, _, _, rfl⟩, ⟨_, _, _, _, rfl⟩⟩
  refine law.mpr fun id name url new added used => ?_
  obtain ⟨a, member⟩ := added
  have mine : id = "2" ∨ id = "3" := by
    simp [nodeAt, rootMap, barSnapshot, Keyed.get, children, bookmark] at member
    rcases member with ⟨rfl, _⟩ | ⟨rfl, _⟩ <;> simp
  rcases mine with rfl | rfl
  · exact absurd (by decide) new
  · exact absurd used (by decide)

end HeliumSync
