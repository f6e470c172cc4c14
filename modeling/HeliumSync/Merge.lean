import HeliumSync.Bookmarks
import HeliumSync.ThreeWay

/-! `merge_bookmarks` and the functions it is made of. The conflict counter of
the source is threaded through every call. -/
namespace HeliumSync
open BookmarkNode (nodeId weight weightList weightOption)

/-- `merge_value` -/
def mergeValue {T : Type} [DecidableEq T] (base : Option T) (loc remote : T)
    (conflicts : Nat) : T × Nat :=
  if loc = remote then (loc, conflicts)
  else if some loc = base then (remote, conflicts)
  else if some remote = base then (loc, conflicts)
  else (remote, conflicts + 1)

/-- Fields of the base folder, when the base still is the folder of that id. -/
def baseFolder (base : Option BookmarkNode) (localId : String) :
    Option (String × Option String × Option String × List BookmarkNode) :=
  match base with
  | some (.folder id name dateAdded dateModified children) =>
      if id = localId then some (name, dateAdded, dateModified, children) else none
  | _ => none

/-- Fields of the base URL, when the base still is the URL of that id. -/
def baseUrl (base : Option BookmarkNode) (localId : String) :
    Option (String × String × Option String) :=
  match base with
  | some (.url id name url dateAdded) => if id = localId then some (name, url, dateAdded) else none
  | _ => none

/-- The ids of `remote`, `local` and `base` in the order the merge visits them. -/
def childIds (base : Option (List BookmarkNode)) (loc remote : List BookmarkNode) : List String :=
  Keyed.unseen [] ((remote ++ loc ++ base.getD []).map nodeId)

mutual
/-- `merge_optional_node` -/
def mergeOptionalNode (base loc remote : Option BookmarkNode) (conflicts : Nat) :
    Option BookmarkNode × Nat :=
  if loc = remote then (loc, conflicts)
  else if loc = base then (remote, conflicts)
  else if remote = base then (loc, conflicts)
  else match base, loc, remote with
    | base, some l, some r =>
        let merged := mergePresentNode base l r conflicts
        (some merged.1, merged.2)
    | some _, none, some r => (some r, conflicts + 1)
    | some _, some l, none => (some l, conflicts + 1)
    | _, _, _ => (none, conflicts)
termination_by 2 * (weightOption loc + weightOption remote) + 1
decreasing_by exact Nat.lt_succ_self _

/-- `merge_present_node` -/
def mergePresentNode (base : Option BookmarkNode) (loc remote : BookmarkNode) (conflicts : Nat) :
    BookmarkNode × Nat :=
  match loc, remote with
  | .folder localId localName localAdded localModified localChildren,
    .folder remoteId remoteName remoteAdded remoteModified remoteChildren =>
      if localId = remoteId then
        let folder := baseFolder base localId
        let name := mergeValue (folder.map (·.1)) localName remoteName conflicts
        let dateAdded := mergeValue (folder.map (·.2.1)) localAdded remoteAdded name.2
        let dateModified :=
          mergeValue (folder.map (·.2.2.1)) localModified remoteModified dateAdded.2
        let children :=
          mergeChildren (folder.map (·.2.2.2)) localChildren remoteChildren dateModified.2
        (.folder localId name.1 dateAdded.1 dateModified.1 children.1, children.2)
      else (remote, conflicts + 1)
  | .url localId localName localUrl localAdded, .url remoteId remoteName remoteUrl remoteAdded =>
      if localId = remoteId then
        let fields := baseUrl base localId
        let name := mergeValue (fields.map (·.1)) localName remoteName conflicts
        let url := mergeValue (fields.map (·.2.1)) localUrl remoteUrl name.2
        let dateAdded := mergeValue (fields.map (·.2.2)) localAdded remoteAdded url.2
        (.url localId name.1 url.1 dateAdded.1, dateAdded.2)
      else (remote, conflicts + 1)
  | _, _ => (remote, conflicts + 1)
termination_by 2 * (loc.weight + remote.weight)
decreasing_by simp only [weight]; omega

/-- `merge_children` -/
def mergeChildren (base : Option (List BookmarkNode)) (loc remote : List BookmarkNode)
    (conflicts : Nat) : List BookmarkNode × Nat :=
  Keyed.filterMapState
    (fun id conflicts =>
      mergeOptionalNode (nodeMap (base.getD []) id) (nodeMap loc id) (nodeMap remote id) conflicts)
    (childIds base loc remote) conflicts
termination_by 2 * (weightList loc + weightList remote)
decreasing_by
  have := weight_nodeMap_lt loc id
  have := weight_nodeMap_lt remote id
  omega
end

/-- `validate_merge_pair` -/
def validateMergePair (left right : BookmarkSnapshotV1) : Except ProfileError Unit :=
  if left.format ≠ right.format ∨ left.sourceBrowser ≠ right.sourceBrowser ∨
      left.profileDirectory ≠ right.profileDirectory then
    .error (.incompatibleSnapshot
      s!"{left.format}:{left.sourceBrowser}:{left.profileDirectory} does not match {right.format}:{right.sourceBrowser}:{right.profileDirectory}")
  else .ok ()

/-- The root keys of `remote`, `local` and `base` in the order the merge visits them. -/
def rootKeys (base loc remote : List BookmarkRoot) : List String :=
  Keyed.unseen [] ((remote ++ loc ++ base).map BookmarkRoot.key)

/-- The loop over root keys in `merge_bookmarks`. -/
def mergeRoots (base loc remote : List BookmarkRoot) (conflicts : Nat) :
    List BookmarkRoot × Nat :=
  Keyed.filterMapState
    (fun key conflicts =>
      let merged :=
        mergeOptionalNode (rootMap base key) (rootMap loc key) (rootMap remote key) conflicts
      (merged.1.map (BookmarkRoot.mk key), merged.2))
    (rootKeys base loc remote) conflicts

/-- `merge_bookmarks` -/
def mergeBookmarks (base : Option BookmarkSnapshotV1) (loc remote : BookmarkSnapshotV1) :
    Except ProfileError BookmarkMergeResult := do
  validateMergePair loc remote
  if let some base := base then validateMergePair base loc
  let merged := mergeRoots ((base.map BookmarkSnapshotV1.roots).getD []) loc.roots remote.roots 0
  return {
    snapshot := {
      format := remote.format
      sourceBrowser := remote.sourceBrowser
      profileDirectory := remote.profileDirectory
      chromiumVersion := max loc.chromiumVersion remote.chromiumVersion
      roots := merged.1 }
    conflicts := merged.2 }

end HeliumSync
