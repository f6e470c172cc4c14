import HeliumSync.Json
import HeliumSync.Merge
import HeliumSync.Ordered
import Mathlib.Data.String.Basic

/-! The JSON forms of a bookmark snapshot: Chromium's `Bookmarks` file and the document
that is uploaded and kept as a merge base. -/
namespace HeliumSync
open Json (asString asU64 asOption asList ofU64 ofOption fields only lookup required defaulted
  limited deepest listDepth mapDepth fieldDepth)

structure RawFields where
  id : String
  name : String
  kind : String
  url : Option String
  dateAdded : Option String
  dateModified : Option String

/-- `RawNode` -/
inductive RawNode where
  | mk (fields : RawFields) (children : List RawNode)

structure RawBookmarks where
  version : U64
  roots : List (String × RawNode)

/-- The declared fields of `RawNode`. -/
def rawNodeFields : List String :=
  ["id", "name", "type", "url", "date_added", "date_modified", "children"]

/-- The fields of a `RawNode` other than its children. -/
def readRawFields (entries : List (String × Json)) : Except String RawFields := do
  return {
    id := ← required entries "id" asString
    name := ← required entries "name" asString
    kind := ← required entries "type" asString
    url := ← defaulted entries "url" none (asOption asString)
    dateAdded := ← defaulted entries "date_added" none (asOption asString)
    dateModified := ← defaulted entries "date_modified" none (asOption asString) }

def finishRawNode (entries : Except String (List (String × Json)))
    (children : List (Except String (List RawNode))) : Except String RawNode := do
  let fields ← readRawFields (← entries)
  match ← only "children" children with
  | some nodes => return .mk fields (← nodes)
  | none => return .mk fields []

mutual
/-- `Deserialize for RawNode` -/
def readRawNode : Json → Except String RawNode
  | .obj entries => finishRawNode (.ok entries) (readRawChildren entries)
  | .arr [id, name, kind, url, dateAdded, dateModified, children] =>
      finishRawNode
        (fields rawNodeFields 3 (.arr [id, name, kind, url, dateAdded, dateModified, children]))
        [readRawNodes children]
  | value => finishRawNode (fields rawNodeFields 3 value) []

def readRawChildren : List (String × Json) → List (Except String (List RawNode))
  | [] => []
  | (key, value) :: entries =>
      if key = "children" then readRawNodes value :: readRawChildren entries
      else readRawChildren entries

def readRawNodes : Json → Except String (List RawNode)
  | .arr items => readRawItems items
  | _ => .error "invalid type: expected a sequence"

def readRawItems : List Json → Except String (List RawNode)
  | [] => .ok []
  | item :: items => do
      let node ← readRawNode item
      return node :: (← readRawItems items)
end

def readRawRoot (entry : String × Json) : Except String (String × RawNode) := do
  return (entry.1, ← readRawNode entry.2)

/-- `BTreeMap<String, RawNode>` -/
def readRawRoots : Json → Except String (List (String × RawNode))
  | .obj entries => do return Ordered.collect Prod.fst (← entries.mapM readRawRoot)
  | _ => .error "invalid type: expected a map"

/-- `Deserialize for RawBookmarks` -/
def readRawBookmarks (value : Json) : Except String RawBookmarks := do
  let entries ← fields ["version", "roots"] 2 value
  return {
    version := ← defaulted entries "version" 0 asU64
    roots := ← required entries "roots" readRawRoots }

mutual
/-- How deep the parser goes for a `RawNode`: into its children, and into nothing that it has besides. -/
def rawNodeDepth : Json → Nat
  | .obj entries => 1 + rawChildrenDepth entries
  | .arr [_, _, _, _, _, _, children] => 1 + rawNodesDepth children
  | .arr _ => 1
  | _ => 0

def rawChildrenDepth : List (String × Json) → Nat
  | [] => 0
  | (key, value) :: entries =>
      if key = "children" then max (rawNodesDepth value) (rawChildrenDepth entries)
      else rawChildrenDepth entries

def rawNodesDepth : Json → Nat
  | .arr items => 1 + rawItemsDepth items
  | _ => 0

def rawItemsDepth : List Json → Nat
  | [] => 0
  | item :: items => max (rawNodeDepth item) (rawItemsDepth items)
end

/-- How deep the parser goes for a `RawBookmarks`. -/
def rawBookmarksDepth : Json → Nat :=
  fieldDepth ["version", "roots"] 2 "roots" (mapDepth rawNodeDepth)

mutual
/-- `convert_node` -/
def convertNode : RawNode → Except ProfileError BookmarkNode
  | .mk raw children =>
      if raw.kind = "folder" then do
        let children ← convertNodes children
        return .folder raw.id raw.name raw.dateAdded raw.dateModified children
      else if raw.kind = "url" then
        match raw.url with
        | some url => return .url raw.id raw.name url raw.dateAdded
        | none => throw (.unsupportedNodeType "url node without URL")
      else throw (.unsupportedNodeType raw.kind)

def convertNodes : List RawNode → Except ProfileError (List BookmarkNode)
  | [] => return []
  | node :: nodes => do
      let first ← convertNode node
      return first :: (← convertNodes nodes)
end

def convertRoot (entry : String × RawNode) : Except ProfileError BookmarkRoot := do
  return ⟨entry.1, ← convertNode entry.2⟩

/-- The snapshot `read_bookmarks` makes of a parsed file. -/
def snapshotOf (profileDirectory : String) (raw : RawBookmarks) :
    Except ProfileError BookmarkSnapshotV1 := do
  let roots ← raw.roots.mapM convertRoot
  return {
    format := "helium-bookmarks-v1"
    sourceBrowser := "helium"
    profileDirectory
    chromiumVersion := raw.version
    roots }

mutual
/-- `serde_json::to_value` of a node: a map sorts its keys. -/
def nodeValue : BookmarkNode → Json
  | .folder id name dateAdded dateModified children =>
      .obj [("children", .arr (nodeValues children)), ("date_added", ofOption dateAdded),
        ("date_modified", ofOption dateModified), ("id", .str id), ("name", .str name),
        ("type", .str "folder")]
  | .url id name url dateAdded =>
      .obj [("date_added", ofOption dateAdded), ("id", .str id), ("name", .str name),
        ("type", .str "url"), ("url", .str url)]

def nodeValues : List BookmarkNode → List Json
  | [] => []
  | node :: nodes => nodeValue node :: nodeValues nodes
end

/-- `chromium_bookmarks_json` -/
def chromiumBookmarksJson (snapshot : BookmarkSnapshotV1) : Json :=
  let roots := Ordered.collect Prod.fst
    (snapshot.roots.map fun root => (root.key, nodeValue root.node))
  .obj [("roots", .obj roots), ("version", ofU64 snapshot.chromiumVersion)]

mutual
/-- `Serialize for BookmarkNode` -/
def writeNode : BookmarkNode → Json
  | .folder id name dateAdded dateModified children =>
      .obj [("type", .str "folder"), ("id", .str id), ("name", .str name),
        ("date_added", ofOption dateAdded), ("date_modified", ofOption dateModified),
        ("children", .arr (writeNodes children))]
  | .url id name url dateAdded =>
      .obj [("type", .str "url"), ("id", .str id), ("name", .str name), ("url", .str url),
        ("date_added", ofOption dateAdded)]

def writeNodes : List BookmarkNode → List Json
  | [] => []
  | node :: nodes => writeNode node :: writeNodes nodes
end

/-- `Serialize for BookmarkRoot` -/
def writeRoot (root : BookmarkRoot) : Json :=
  .obj [("key", .str root.key), ("node", writeNode root.node)]

/-- `Serialize for BookmarkSnapshotV1` -/
def writeSnapshot (snapshot : BookmarkSnapshotV1) : Json :=
  .obj [("format", .str snapshot.format), ("source_browser", .str snapshot.sourceBrowser),
    ("profile_directory", .str snapshot.profileDirectory),
    ("chromium_version", ofU64 snapshot.chromiumVersion),
    ("roots", .arr (snapshot.roots.map writeRoot))]

/-- The variant the tag names, read from the other entries. A folder ignores a URL. -/
def finishNode (entries : List (String × Json))
    (children : List (Except String (List BookmarkNode))) : Except String BookmarkNode := do
  let kind ← required entries "type" asString
  if kind = "folder" then
    let id ← required entries "id" asString
    let name ← required entries "name" asString
    let dateAdded ← defaulted entries "date_added" none (asOption asString)
    let dateModified ← defaulted entries "date_modified" none (asOption asString)
    match ← only "children" children with
    | some nodes => return .folder id name dateAdded dateModified (← nodes)
    | none => throw "missing field children"
  else if kind = "url" then
    return .url (← required entries "id" asString) (← required entries "name" asString)
      (← required entries "url" asString)
      (← defaulted entries "date_added" none (asOption asString))
  else throw s!"unknown variant {kind}"

mutual
/-- `Deserialize for BookmarkNode`, tagged by `type`. An array lists the tag and every field. -/
def readNode : Json → Except String BookmarkNode
  | .obj entries => finishNode entries (readChildren entries)
  | .arr [kind, id, name, dateAdded, dateModified, children] =>
      if kind = .str "folder" then
        finishNode [("type", kind), ("id", id), ("name", name), ("date_added", dateAdded),
          ("date_modified", dateModified)] [readNodes children]
      else .error "invalid length"
  | .arr [kind, id, name, url, dateAdded] =>
      if kind = .str "url" then
        finishNode [("type", kind), ("id", id), ("name", name), ("url", url),
          ("date_added", dateAdded)] []
      else .error "invalid length"
  | _ => .error "invalid type: expected internally tagged enum BookmarkNode"

def readChildren : List (String × Json) → List (Except String (List BookmarkNode))
  | [] => []
  | (key, value) :: entries =>
      if key = "children" then readNodes value :: readChildren entries
      else readChildren entries

def readNodes : Json → Except String (List BookmarkNode)
  | .arr items => readItems items
  | _ => .error "invalid type: expected a sequence"

def readItems : List Json → Except String (List BookmarkNode)
  | [] => .ok []
  | item :: items => do
      let node ← readNode item
      return node :: (← readItems items)
end

/-- `Deserialize for BookmarkRoot` -/
def readRoot (value : Json) : Except String BookmarkRoot := do
  let entries ← fields ["key", "node"] 2 value
  return ⟨← required entries "key" asString, ← required entries "node" readNode⟩

/-- `Deserialize for BookmarkSnapshotV1` -/
def deserializeSnapshot (value : Json) : Except String BookmarkSnapshotV1 := do
  let entries ← fields
    ["format", "source_browser", "profile_directory", "chromium_version", "roots"] 5 value
  return {
    format := ← required entries "format" asString
    sourceBrowser := ← required entries "source_browser" asString
    profileDirectory := ← required entries "profile_directory" asString
    chromiumVersion := ← required entries "chromium_version" asU64
    roots := ← required entries "roots" (asList readRoot) }

/-- How deep the parser goes for a `BookmarkRoot`. A tagged node is buffered with all that it has. -/
def rootDepth : Json → Nat := fieldDepth ["key", "node"] 2 "node" Json.depth

/-- How deep the parser goes for a `BookmarkSnapshotV1`. -/
def snapshotDepth : Json → Nat :=
  fieldDepth ["format", "source_browser", "profile_directory", "chromium_version", "roots"] 5 "roots"
    (listDepth rootDepth)

/-- `serde_json::from_slice::<BookmarkSnapshotV1>` -/
def readSnapshot : Json → Except String BookmarkSnapshotV1 :=
  limited snapshotDepth deserializeSnapshot

mutual
theorem readNode_writeNode : ∀ node : BookmarkNode, readNode (writeNode node) = .ok node
  | .folder id name dateAdded dateModified children => by
      have below := readItems_writeNodes children
      cases dateAdded <;> cases dateModified <;>
        simp [writeNode, readNode, readChildren, readNodes, below, finishNode, required, defaulted,
          lookup, only, ofOption, asOption]
      all_goals rfl
  | .url id name url dateAdded => by
      cases dateAdded <;>
        simp [writeNode, readNode, readChildren, finishNode, required, defaulted, lookup, only,
          ofOption, asOption] <;> rfl

theorem readItems_writeNodes : ∀ nodes : List BookmarkNode,
    readItems (writeNodes nodes) = .ok nodes
  | [] => rfl
  | node :: nodes => by
      rw [writeNodes, readItems, readNode_writeNode node, readItems_writeNodes nodes]
      rfl
end

theorem readRoot_writeRoot (root : BookmarkRoot) : readRoot (writeRoot root) = .ok root := by
  have node := readNode_writeNode root.node
  simp [writeRoot, readRoot, fields, required, lookup, only, node, bind, Except.bind, pure,
    Except.pure]

theorem deserializeSnapshot_writeSnapshot (snapshot : BookmarkSnapshotV1) :
    deserializeSnapshot (writeSnapshot snapshot) = .ok snapshot := by
  have roots := Json.asList_map snapshot.roots fun root _ => readRoot_writeRoot root
  simp [writeSnapshot, deserializeSnapshot, fields, required, lookup, only, roots, bind, Except.bind,
    pure, Except.pure]

mutual
/-- The raw node that a written node is parsed to. -/
def rawNode : BookmarkNode → RawNode
  | .folder id name dateAdded dateModified children =>
      .mk ⟨id, name, "folder", none, dateAdded, dateModified⟩ (rawNodes children)
  | .url id name url dateAdded => .mk ⟨id, name, "url", some url, dateAdded, none⟩ []

def rawNodes : List BookmarkNode → List RawNode
  | [] => []
  | node :: nodes => rawNode node :: rawNodes nodes
end

mutual
theorem readRawNode_nodeValue : ∀ node : BookmarkNode,
    readRawNode (nodeValue node) = .ok (rawNode node)
  | .folder id name dateAdded dateModified children => by
      have below := readRawItems_nodeValues children
      simp [nodeValue, readRawNode, readRawChildren, readRawNodes, below, finishRawNode,
        readRawFields, required, defaulted, lookup, only, rawNode, bind, Except.bind, pure,
        Except.pure]
  | .url id name url dateAdded => by
      simp [nodeValue, readRawNode, readRawChildren, finishRawNode, readRawFields, required,
        defaulted, lookup, only, rawNode, bind, Except.bind, pure, Except.pure]

theorem readRawItems_nodeValues : ∀ nodes : List BookmarkNode,
    readRawItems (nodeValues nodes) = .ok (rawNodes nodes)
  | [] => rfl
  | node :: nodes => by
      rw [nodeValues, readRawItems, readRawNode_nodeValue node, readRawItems_nodeValues nodes]
      rfl
end

mutual
theorem convertNode_rawNode : ∀ node : BookmarkNode, convertNode (rawNode node) = .ok node
  | .folder id name dateAdded dateModified children => by
      simp [rawNode, convertNode, convertNodes_rawNodes children, bind, Except.bind, pure,
        Except.pure]
  | .url id name url dateAdded => by
      simp [rawNode, convertNode, pure, Except.pure]

theorem convertNodes_rawNodes : ∀ nodes : List BookmarkNode,
    convertNodes (rawNodes nodes) = .ok nodes
  | [] => rfl
  | node :: nodes => by
      rw [rawNodes, convertNodes, convertNode_rawNode node, convertNodes_rawNodes nodes]
      rfl
end

/-- The roots as a map keeps them: ascending keys, the last root of a repeated key. -/
def canonicalRoots (roots : List BookmarkRoot) : List BookmarkRoot :=
  Ordered.collect BookmarkRoot.key roots

/-- What `read_bookmarks` finds in a file written for the profile. -/
def readBack (profileDirectory : String) (snapshot : BookmarkSnapshotV1) : BookmarkSnapshotV1 where
  format := "helium-bookmarks-v1"
  sourceBrowser := "helium"
  profileDirectory
  chromiumVersion := snapshot.chromiumVersion
  roots := canonicalRoots snapshot.roots

theorem chromiumBookmarksJson_eq (snapshot : BookmarkSnapshotV1) :
    chromiumBookmarksJson snapshot =
      .obj [("roots", .obj ((canonicalRoots snapshot.roots).map fun root =>
          (root.key, nodeValue root.node))), ("version", ofU64 snapshot.chromiumVersion)] := by
  rw [chromiumBookmarksJson, canonicalRoots, Ordered.collect_map fun _ => rfl]

theorem readRawRoots_map {roots : List BookmarkRoot}
    (ascending : Ordered.Ascending BookmarkRoot.key roots) :
    readRawRoots (.obj (roots.map fun root => (root.key, nodeValue root.node))) =
      .ok (roots.map fun root => (root.key, rawNode root.node)) := by
  have values := Fallible.mapM_map_ok (fun root => (root.key, nodeValue root.node)) readRawRoot
    (fun root => (root.key, rawNode root.node)) roots
    fun root _ => by rw [readRawRoot, readRawNode_nodeValue]; rfl
  have sorted : Ordered.collect Prod.fst (roots.map fun root => (root.key, rawNode root.node)) =
      roots.map fun root => (root.key, rawNode root.node) := by
    rw [Ordered.collect_map fun _ => rfl, Ordered.collect_of_ascending ascending]
  rw [readRawRoots, values]
  exact congrArg Except.ok sorted

theorem convertRoots_map (roots : List BookmarkRoot) :
    (roots.map fun root => (root.key, rawNode root.node)).mapM convertRoot = .ok roots := by
  have values := Fallible.mapM_map_ok (fun root => (root.key, rawNode root.node)) convertRoot id roots
    fun root _ => by rw [convertRoot, convertNode_rawNode]; rfl
  rw [values, List.map_id]

/-- Writing a snapshot and reading it again keeps the version and sorts the roots. -/
theorem read_chromiumBookmarksJson (profileDirectory : String) (snapshot : BookmarkSnapshotV1) :
    ∃ raw, readRawBookmarks (chromiumBookmarksJson snapshot) = .ok raw ∧
      snapshotOf profileDirectory raw = .ok (readBack profileDirectory snapshot) := by
  have roots := readRawRoots_map (Ordered.ascending_collect BookmarkRoot.key snapshot.roots)
  refine ⟨⟨snapshot.chromiumVersion, (canonicalRoots snapshot.roots).map fun root =>
    (root.key, rawNode root.node)⟩, ?_, ?_⟩
  · rw [chromiumBookmarksJson_eq]
    simp only [canonicalRoots]
    simp [readRawBookmarks, fields, required, defaulted, lookup, only, roots, bind, Except.bind,
      pure, Except.pure]
  · rw [snapshotOf, convertRoots_map]
    rfl

theorem rootMap_canonicalRoots (roots : List BookmarkRoot) (key : String) :
    rootMap (canonicalRoots roots) key = rootMap roots key := by
  rw [rootMap, rootMap, canonicalRoots, Ordered.get_collect]

theorem ascending_readRawRoots {value : Json} {roots : List (String × RawNode)}
    (parsed : readRawRoots value = .ok roots) : Ordered.Ascending Prod.fst roots := by
  match value with
  | .obj entries =>
      obtain ⟨raw, _, same⟩ := Fallible.bind_ok_iff.mp parsed
      cases same
      exact Ordered.ascending_collect Prod.fst raw
  | .null | .bool _ | .int _ | .float _ | .str _ | .arr _ => cases parsed

/-- A file that was read gives ascending root keys. -/
theorem ascending_of_snapshotOf {profileDirectory : String} {value : Json} {raw : RawBookmarks}
    {snapshot : BookmarkSnapshotV1} (parsed : readRawBookmarks value = .ok raw)
    (converted : snapshotOf profileDirectory raw = .ok snapshot) :
    Ordered.Ascending BookmarkRoot.key snapshot.roots := by
  obtain ⟨entries, _, parsed⟩ := Fallible.bind_ok_iff.mp parsed
  obtain ⟨version, _, parsed⟩ := Fallible.bind_ok_iff.mp parsed
  obtain ⟨rawRoots, found, parsed⟩ := Fallible.bind_ok_iff.mp parsed
  obtain ⟨roots, each, converted⟩ := Fallible.bind_ok_iff.mp converted
  cases parsed
  cases converted
  obtain ⟨_, _, ascending⟩ := Json.required_mem found
  have keys := Fallible.mapM_ok_map Prod.fst BookmarkRoot.key
    (fun x y step => by
      obtain ⟨node, _, same⟩ := Fallible.bind_ok_iff.mp step
      cases same
      rfl) each
  rw [Ordered.Ascending, keys]
  exact ascending_readRawRoots ascending

mutual
theorem depth_nodeValue : ∀ node : BookmarkNode, (nodeValue node).depth = (writeNode node).depth
  | .folder id name dateAdded dateModified children => by
      have below := depth_nodeValues children
      cases dateAdded <;> cases dateModified <;>
        simp [nodeValue, writeNode, Json.depth, Json.depthEntries, ofOption, below]
  | .url id name url dateAdded => by
      cases dateAdded <;> simp [nodeValue, writeNode, Json.depth, Json.depthEntries, ofOption]

theorem depth_nodeValues : ∀ nodes : List BookmarkNode,
    Json.depthItems (nodeValues nodes) = Json.depthItems (writeNodes nodes)
  | [] => rfl
  | node :: nodes => by
      rw [nodeValues, writeNodes, Json.depthItems, Json.depthItems, depth_nodeValue node,
        depth_nodeValues nodes]
end

mutual
/-- The parser goes into all of a node that was written. -/
theorem rawNodeDepth_nodeValue : ∀ node : BookmarkNode,
    rawNodeDepth (nodeValue node) = (nodeValue node).depth
  | .folder id name dateAdded dateModified children => by
      have below := rawItemsDepth_nodeValues children
      cases dateAdded <;> cases dateModified <;>
        simp [nodeValue, rawNodeDepth, rawChildrenDepth, rawNodesDepth, Json.depth,
          Json.depthEntries, ofOption, below]
  | .url id name url dateAdded => by
      cases dateAdded <;>
        simp [nodeValue, rawNodeDepth, rawChildrenDepth, Json.depth, Json.depthEntries, ofOption]

theorem rawItemsDepth_nodeValues : ∀ nodes : List BookmarkNode,
    rawItemsDepth (nodeValues nodes) = Json.depthItems (nodeValues nodes)
  | [] => rfl
  | node :: nodes => by
      rw [nodeValues, rawItemsDepth, Json.depthItems, rawNodeDepth_nodeValue node,
        rawItemsDepth_nodeValues nodes]
end

theorem rawBookmarksDepth_written (snapshot : BookmarkSnapshotV1) :
    rawBookmarksDepth (chromiumBookmarksJson snapshot) = (chromiumBookmarksJson snapshot).depth := by
  have each : deepest (fun entry : String × Json => rawNodeDepth entry.2)
      ((canonicalRoots snapshot.roots).map fun root => (root.key, nodeValue root.node)) =
      Json.depthEntries ((canonicalRoots snapshot.roots).map fun root =>
        (root.key, nodeValue root.node)) := by
    rw [Json.depthEntries_eq_deepest]
    refine Json.deepest_congr fun entry member => ?_
    obtain ⟨root, _, rfl⟩ := List.mem_map.mp member
    exact rawNodeDepth_nodeValue root.node
  rw [chromiumBookmarksJson_eq]
  simp [rawBookmarksDepth, fieldDepth, fields, deepest, mapDepth, Json.depth, Json.depthEntries,
    ofU64, ← each]

theorem snapshotDepth_written (snapshot : BookmarkSnapshotV1) :
    snapshotDepth (writeSnapshot snapshot) = (writeSnapshot snapshot).depth := by
  have each : deepest rootDepth (snapshot.roots.map writeRoot) =
      Json.depthItems (snapshot.roots.map writeRoot) := by
    rw [Json.depthItems_eq_deepest]
    refine Json.deepest_congr fun value member => ?_
    obtain ⟨root, _, rfl⟩ := List.mem_map.mp member
    simp [rootDepth, writeRoot, fieldDepth, fields, deepest, Json.depth, Json.depthEntries]
  simp [snapshotDepth, writeSnapshot, fieldDepth, fields, deepest, listDepth, Json.depth,
    Json.depthEntries, ofU64, ← each]

/-- A `Bookmarks` file nests no deeper than the snapshot document of the same roots. -/
theorem depth_chromiumBookmarksJson_le (snapshot : BookmarkSnapshotV1) :
    (chromiumBookmarksJson snapshot).depth ≤ (writeSnapshot snapshot).depth := by
  have roots : Json.depthEntries ((canonicalRoots snapshot.roots).map fun root =>
      (root.key, nodeValue root.node)) ≤ Json.depthItems (snapshot.roots.map writeRoot) := by
    refine Json.depthEntries_le fun entry member => ?_
    obtain ⟨root, held, rfl⟩ := List.mem_map.mp member
    have listed := Json.le_depthItems
      (List.mem_map_of_mem (f := writeRoot) (Ordered.mem_of_mem_collect held))
    have node : (writeRoot root).depth = 1 + (writeNode root.node).depth := by
      simp [writeRoot, Json.depth, Json.depthEntries]
    rw [depth_nodeValue]
    omega
  rw [chromiumBookmarksJson_eq]
  simp only [writeSnapshot, Json.depth, Json.depthEntries, ofU64]
  omega

theorem finishNode_depth {entries : List (String × Json)}
    {children : List (Except String (List BookmarkNode))} {node : BookmarkNode} {n : Nat}
    (each : ∀ nodes, Except.ok nodes ∈ children → 1 + Json.depthItems (writeNodes nodes) ≤ n)
    (h : finishNode entries children = .ok node) : (writeNode node).depth ≤ 1 + n := by
  obtain ⟨kind, _, h⟩ := Fallible.bind_ok_iff.mp h
  have scalar (value : Option String) : (ofOption value).depth = 0 := by cases value <;> rfl
  split_ifs at h
  · obtain ⟨id, _, h⟩ := Fallible.bind_ok_iff.mp h
    obtain ⟨name, _, h⟩ := Fallible.bind_ok_iff.mp h
    obtain ⟨dateAdded, _, h⟩ := Fallible.bind_ok_iff.mp h
    obtain ⟨dateModified, _, h⟩ := Fallible.bind_ok_iff.mp h
    obtain ⟨found, only, h⟩ := Fallible.bind_ok_iff.mp h
    match found with
    | some (.ok nodes) =>
        cases h
        have below := each nodes (Json.only_ok only)
        simpa [writeNode, Json.depth, Json.depthEntries, scalar] using below
    | some (.error _) => cases h
    | none => cases h
  · obtain ⟨id, _, h⟩ := Fallible.bind_ok_iff.mp h
    obtain ⟨name, _, h⟩ := Fallible.bind_ok_iff.mp h
    obtain ⟨url, _, h⟩ := Fallible.bind_ok_iff.mp h
    obtain ⟨dateAdded, _, h⟩ := Fallible.bind_ok_iff.mp h
    cases h
    simp [writeNode, Json.depth, Json.depthEntries, scalar]

mutual
/-- A node is written no deeper than it was read. -/
theorem readNode_depth : ∀ (value : Json) (node : BookmarkNode), readNode value = .ok node →
    (writeNode node).depth ≤ value.depth
  | .obj entries, _, h => finishNode_depth (readChildren_depth entries) h
  | .arr [kind, id, name, dateAdded, dateModified, children], _, h => by
      rw [readNode] at h
      split_ifs at h
      refine (finishNode_depth (fun nodes member => ?_) h).trans
        (Nat.add_le_add_left (Json.le_depthItems (List.mem_of_getElem? (i := 5) rfl)) 1)
      exact readNodes_depth children nodes (List.mem_singleton.mp member).symm
  | .arr [kind, id, name, url, dateAdded], _, h => by
      rw [readNode] at h
      split_ifs at h
      exact finishNode_depth (fun _ member => absurd member List.not_mem_nil) h
  | .null, _, h | .bool _, _, h | .int _, _, h | .float _, _, h | .str _, _, h
  | .arr [], _, h | .arr [_], _, h | .arr [_, _], _, h | .arr [_, _, _], _, h
  | .arr [_, _, _, _], _, h | .arr (_ :: _ :: _ :: _ :: _ :: _ :: _ :: _), _, h => by cases h

theorem readChildren_depth : ∀ (entries : List (String × Json)) (nodes : List BookmarkNode),
    .ok nodes ∈ readChildren entries →
    1 + Json.depthItems (writeNodes nodes) ≤ Json.depthEntries entries
  | [], _, h => by cases h
  | (key, value) :: entries, nodes, h => by
      rw [readChildren] at h
      split_ifs at h
      · rcases List.mem_cons.mp h with first | later
        · exact (readNodes_depth value nodes first.symm).trans (le_max_left _ _)
        · exact (readChildren_depth entries nodes later).trans (le_max_right _ _)
      · exact (readChildren_depth entries nodes h).trans (le_max_right _ _)

theorem readNodes_depth : ∀ (value : Json) (nodes : List BookmarkNode), readNodes value = .ok nodes →
    1 + Json.depthItems (writeNodes nodes) ≤ value.depth
  | .arr items, nodes, h => Nat.add_le_add_left (readItems_depth items nodes h) 1
  | .null, _, h | .bool _, _, h | .int _, _, h | .float _, _, h | .str _, _, h | .obj _, _, h => by
      cases h

theorem readItems_depth : ∀ (items : List Json) (nodes : List BookmarkNode),
    readItems items = .ok nodes → Json.depthItems (writeNodes nodes) ≤ Json.depthItems items
  | [], _, h => by cases h; exact le_refl _
  | item :: items, _, h => by
      rw [readItems] at h
      obtain ⟨node, first, h⟩ := Fallible.bind_ok_iff.mp h
      obtain ⟨nodes, rest, h⟩ := Fallible.bind_ok_iff.mp h
      cases h
      exact max_le_max (readNode_depth item node first) (readItems_depth items nodes rest)
end

theorem readRoot_depth (value : Json) (root : BookmarkRoot) (h : readRoot value = .ok root) :
    (writeRoot root).depth ≤ rootDepth value := by
  obtain ⟨entries, found, h⟩ := Fallible.bind_ok_iff.mp h
  obtain ⟨key, _, h⟩ := Fallible.bind_ok_iff.mp h
  obtain ⟨node, read, h⟩ := Fallible.bind_ok_iff.mp h
  cases h
  obtain ⟨field, read, within⟩ := Json.required_depth Json.depth found read
  have below := readNode_depth field node read
  rw [rootDepth]
  simp only [writeRoot, Json.depth, Json.depthEntries]
  omega

/-- A snapshot is written no deeper than it was read. -/
theorem deserializeSnapshot_depth {value : Json} {snapshot : BookmarkSnapshotV1}
    (h : deserializeSnapshot value = .ok snapshot) :
    (writeSnapshot snapshot).depth ≤ snapshotDepth value := by
  obtain ⟨entries, found, h⟩ := Fallible.bind_ok_iff.mp h
  obtain ⟨format, _, h⟩ := Fallible.bind_ok_iff.mp h
  obtain ⟨sourceBrowser, _, h⟩ := Fallible.bind_ok_iff.mp h
  obtain ⟨profileDirectory, _, h⟩ := Fallible.bind_ok_iff.mp h
  obtain ⟨version, _, h⟩ := Fallible.bind_ok_iff.mp h
  obtain ⟨roots, read, h⟩ := Fallible.bind_ok_iff.mp h
  cases h
  obtain ⟨field, read, within⟩ := Json.required_depth (listDepth rootDepth) found read
  have below := Json.asList_depth readRoot_depth read
  rw [snapshotDepth]
  simp only [writeSnapshot, Json.depth, Json.depthEntries, ofU64]
  omega

end HeliumSync
