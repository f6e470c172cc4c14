import HeliumSync.Json
import HeliumSync.Keyed

/-! Bookmark snapshots as `helium-sync-profile` exchanges them. -/
namespace HeliumSync

inductive ProfileError where
  | read (path details : String)
  | parse (path details : String)
  | changing (path : String)
  | unsupportedNodeType (kind : String)
  | archive (path details : String)
  | write (path details : String)
  | profileMismatch (snapshotProfile selectedProfile : String)
  | incompatibleSnapshot (details : String)
  | invalidExtensionArchive (details : String)
  deriving DecidableEq, Repr

/-- The texts of `thiserror`'s `#[error]` attributes; `{0:?}` prints a quoted string. -/
def ProfileError.message : ProfileError → String
  | .read path details => s!"could not read {path}: {details}"
  | .parse path details => s!"could not parse {path}: {details}"
  | .changing path => s!"bookmark file changed while it was being read: {path}"
  | .unsupportedNodeType kind => s!"bookmark node type {repr kind} is unsupported"
  | .archive path details => s!"could not create backup archive {path}: {details}"
  | .write path details => s!"could not write restored bookmarks at {path}: {details}"
  | .profileMismatch snapshotProfile selectedProfile =>
      s!"snapshot belongs to {snapshotProfile}, not selected profile {selectedProfile}"
  | .incompatibleSnapshot details => s!"bookmark snapshots cannot be merged: {details}"
  | .invalidExtensionArchive details => s!"extension archive is invalid: {details}"

inductive BookmarkNode where
  | folder (id name : String) (dateAdded dateModified : Option String)
      (children : List BookmarkNode)
  | url (id name url : String) (dateAdded : Option String)
  deriving Repr

namespace BookmarkNode

mutual
/-- Derived `PartialEq` of the node enumeration. -/
def decEq : (a b : BookmarkNode) → Decidable (a = b)
  | .folder i n a m cs, .folder i' n' a' m' cs' =>
      match decEqList cs cs' with
      | isTrue same => decidable_of_iff (i = i' ∧ n = n' ∧ a = a' ∧ m = m') (by simp [same])
      | isFalse differ => isFalse (by simp [differ])
  | .url i n u a, .url i' n' u' a' =>
      decidable_of_iff (i = i' ∧ n = n' ∧ u = u' ∧ a = a') (by simp)
  | .folder .., .url .. => isFalse nofun
  | .url .., .folder .. => isFalse nofun

def decEqList : (xs ys : List BookmarkNode) → Decidable (xs = ys)
  | [], [] => isTrue rfl
  | x :: xs, y :: ys =>
      match decEq x y, decEqList xs ys with
      | isTrue h, isTrue t => isTrue (by rw [h, t])
      | isFalse h, _ => isFalse (by simp [h])
      | _, isFalse t => isFalse (by simp [t])
  | [], _ :: _ => isFalse nofun
  | _ :: _, [] => isFalse nofun
end

instance : DecidableEq BookmarkNode := decEq

/-- `node_id` -/
def nodeId : BookmarkNode → String
  | .folder id _ _ _ _ | .url id _ _ _ => id

@[simp] theorem nodeId_folder (i n : String) (a m : Option String) (cs : List BookmarkNode) :
    (folder i n a m cs).nodeId = i := rfl

@[simp] theorem nodeId_url (i n u : String) (a : Option String) : (url i n u a).nodeId = i := rfl

mutual
def weight : BookmarkNode → Nat
  | .folder _ _ _ _ children => 1 + weightList children
  | .url .. => 1

def weightList : List BookmarkNode → Nat
  | [] => 1
  | node :: nodes => weight node + weightList nodes
end

/-- Size of a map lookup, the measure of the merge recursion. -/
def weightOption : Option BookmarkNode → Nat
  | none => 0
  | some node => node.weight

theorem weightList_pos (nodes : List BookmarkNode) : 0 < weightList nodes := by
  induction nodes with
  | nil => exact Nat.one_pos
  | cons node nodes ih => exact Nat.lt_of_lt_of_le ih (Nat.le_add_left _ _)

theorem weight_lt_of_mem {nodes : List BookmarkNode} {node : BookmarkNode}
    (member : node ∈ nodes) : node.weight < weightList nodes := by
  induction nodes with
  | nil => simp at member
  | cons other nodes ih =>
      have tail := weightList_pos nodes
      simp only [weightList]
      rcases List.mem_cons.mp member with rfl | later
      · omega
      · have := ih later
        omega

end BookmarkNode

/-- `node_map(nodes).get(id)`: a `BTreeMap` collected from the list keeps the last node. -/
def nodeMap (nodes : List BookmarkNode) (id : String) : Option BookmarkNode :=
  Keyed.get BookmarkNode.nodeId nodes id

@[simp] theorem nodeMap_nil (id : String) : nodeMap [] id = none := rfl

theorem nodeMap_mem {nodes : List BookmarkNode} {id : String} {node : BookmarkNode}
    (h : nodeMap nodes id = some node) : node ∈ nodes ∧ node.nodeId = id := Keyed.get_mem h

theorem weight_nodeMap_lt (nodes : List BookmarkNode) (id : String) :
    BookmarkNode.weightOption (nodeMap nodes id) < BookmarkNode.weightList nodes := by
  cases found : nodeMap nodes id with
  | none => exact BookmarkNode.weightList_pos nodes
  | some node => exact BookmarkNode.weight_lt_of_mem (nodeMap_mem found).1

structure BookmarkRoot where
  key : String
  node : BookmarkNode
  deriving DecidableEq, Repr

structure BookmarkSnapshotV1 where
  format : String
  sourceBrowser : String
  profileDirectory : String
  chromiumVersion : U64
  roots : List BookmarkRoot
  deriving DecidableEq, Repr

/-- The node a map of the roots holds under `key`. -/
def rootMap (roots : List BookmarkRoot) (key : String) : Option BookmarkNode :=
  (Keyed.get BookmarkRoot.key roots key).map BookmarkRoot.node

theorem rootMap_mem {roots : List BookmarkRoot} {key : String} {node : BookmarkNode}
    (h : rootMap roots key = some node) : ⟨key, node⟩ ∈ roots := by
  obtain ⟨root, found, rfl⟩ := Option.map_eq_some_iff.mp h
  obtain ⟨member, rfl⟩ := Keyed.get_mem found
  exact member

structure BookmarkMergeResult where
  snapshot : BookmarkSnapshotV1
  conflicts : Nat
  deriving DecidableEq, Repr

namespace BookmarkNode

mutual
/-- No two siblings anywhere below the node share an id. -/
def Distinct : BookmarkNode → Prop
  | .folder _ _ _ _ children => (children.map nodeId).Nodup ∧ DistinctList children
  | .url .. => True

def DistinctList : List BookmarkNode → Prop
  | [] => True
  | node :: nodes => node.Distinct ∧ DistinctList nodes
end

theorem distinctList_iff {nodes : List BookmarkNode} :
    DistinctList nodes ↔ ∀ node ∈ nodes, node.Distinct := by
  induction nodes with
  | nil => simp [DistinctList]
  | cons node nodes ih => simp [DistinctList, ih]

end BookmarkNode

/-- Distinct root keys and distinct ids within every sibling list. -/
structure BookmarkSnapshotV1.Distinct (s : BookmarkSnapshotV1) : Prop where
  keys : (s.roots.map BookmarkRoot.key).Nodup
  nodes : ∀ root ∈ s.roots, root.node.Distinct

end HeliumSync
